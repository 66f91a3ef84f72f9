/-
  The line that a message refers to.

  A reference is the word `line`, in any case, one space and digits.  The first reference of a
  message counts, with all the digits that follow it.

  * `referenceDigits?`: the digits of the first reference;
  * `lineReference`: their value, unless there are too many of them;
  * `lineReferenceOf`: the same for a message that may be absent.
-/
import DiagramLint.Text.Fold

namespace DiagramLint

open Text

/-- What opens a reference, its case disregarded. -/
def referenceWord : List Char := ['l', 'i', 'n', 'e', ' ']

/-- The digits of the reference that stands at the beginning of the text; there are none if no
    reference stands there. -/
def digitsHere (s : List Char) : List Char :=
  if (s.take 5).map fold = referenceWord then (s.drop 5).takeWhile Char.isDigit else []

/-- The digits of the first reference. -/
def referenceDigits? : List Char → Option (List Char)
  | [] => none
  | c :: s => match digitsHere (c :: s) with
    | [] => referenceDigits? s
    | ds => some ds

/-- A line number with more digits than are read. -/
structure OverlongNumber where
  /-- How many digits there are. -/
  digits : Nat
  deriving Repr, DecidableEq

/-- The most digits that a line number may have. -/
def maxReferenceDigits : Nat := 4300

/-- The text for the user. -/
def OverlongNumber.message (o : OverlongNumber) : String :=
  "Exceeds the limit (" ++ toString maxReferenceDigits ++
    " digits) for integer string conversion: value has " ++ toString o.digits ++
    " digits; use sys.set_int_max_str_digits() to increase the limit"

/-- The value of the digits, unless there are too many. -/
def readReference (ds : List Char) : Except OverlongNumber Nat :=
  if ds.length ≤ maxReferenceDigits then .ok (Nat.ofDigitChars 10 ds 0) else .error ⟨ds.length⟩

/-- The line that a message refers to, if it refers to one. -/
def lineReference (message : String) : Except OverlongNumber (Option Nat) :=
  match referenceDigits? message.toList with
  | none => .ok none
  | some ds => (readReference ds).map some

/-- The line that a message refers to; an absent message counts as empty. -/
def lineReferenceOf (message : Option String) : Except OverlongNumber (Option Nat) :=
  lineReference (message.getD "")

end DiagramLint
