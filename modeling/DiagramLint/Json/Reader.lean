/-
  Reading JSON.

  * `Json.parse`: the value that a text holds, between blanks and nothing else; beyond the standard
    the names of the numbers that are not finite are read, and a byte order mark may come first;
  * `Json.ReadError`: why a text is not read; the first fault from the left counts.

  Every function takes the beginning of a text and gives what it leaves.  A value is read with an
  allowance of levels, one for each array or object around another, and an allowance of calls, of
  which a text never needs more than twice its length.

  The texts in a value are kept code by code, since an escape may name half a pair of surrogates.
-/
import DiagramLint.Json.Basic
import DiagramLint.Text.Surrogate

namespace DiagramLint.Json

/-- Why a text is not read. -/
inductive ReadError where
  /-- The text is no JSON. -/
  | malformed
  /-- An integer has too many digits. -/
  | overlong
  /-- Arrays and objects are nested too deeply. -/
  | tooDeep
  /-- The bytes of the text encode no characters. -/
  | undecodable
  deriving Repr, DecidableEq

/-- The most digits that an integer may have. -/
def maxDigits : Nat := 4300

/-- The most levels of arrays and objects, one inside the other. -/
def maxDepth : Nat := 960

/-! ## Blanks, digits and texts -/

/-- The blanks between the parts of a text. -/
def isGap (c : Code) : Bool := c == .char ' ' || c == .char '\t' || c == .char '\n' || c == .char '\r'

/-- The text without the blanks at its beginning. -/
def skipGap (s : Codes) : Codes := s.dropWhile isGap

/-- The digits at the beginning of a text, and what follows them. -/
def spanDigits : Codes → List Char × Codes
  | .char c :: s =>
    if c.isDigit then ((spanDigits s).1.cons c, (spanDigits s).2) else ([], .char c :: s)
  | s => ([], s)

/-- The value of a hexadecimal digit. -/
def hexValue? : Code → Option Nat
  | .char c =>
    if '0' ≤ c ∧ c ≤ '9' then some (c.toNat - 48)
    else if 'a' ≤ c ∧ c ≤ 'f' then some (c.toNat - 87)
    else if 'A' ≤ c ∧ c ≤ 'F' then some (c.toNat - 55)
    else none
  | .lone _ => none

/-- The number that hexadecimal digits write. -/
def hexNumber? (ds : Codes) : Option Nat :=
  ds.foldl (fun n d => do return 16 * (← n) + (← hexValue? d)) (some 0)

/-- The character that a letter stands for behind a backslash. -/
def escaped? : Char → Option Char
  | '"' => some '"'
  | '\\' => some '\\'
  | '/' => some '/'
  | 'b' => some '\x08'
  | 'f' => some '\x0C'
  | 'n' => some '\n'
  | 'r' => some '\r'
  | 't' => some '\t'
  | _ => none

/-- A part of a text: a code as it stands, or a unit of sixteen bits. -/
inductive TextPart where
  | code (c : Code)
  | unit (n : Nat)
  deriving Repr, DecidableEq

/-- The parts of a text up to its closing quote; `done` holds those already read, the last one
    first. -/
def readParts : Codes → List TextPart → Except ReadError (List TextPart × Codes)
  | .char '"' :: s, done => .ok (done.reverse, s)
  | .char '\\' :: .char 'u' :: a :: b :: c :: d :: s, done =>
    match hexNumber? [a, b, c, d] with
    | some n => readParts s (.unit n :: done)
    | none => .error .malformed
  | .char '\\' :: .char c :: s, done =>
    match escaped? c with
    | some c => readParts s (.code (.char c) :: done)
    | none => .error .malformed
  | .char c :: s, done =>
    if c.toNat < 0x20 ∨ c = '\\' then .error .malformed
    else readParts s (.code (.char c) :: done)
  | .lone n :: s, done => readParts s (.code (.lone n) :: done)
  | [], _ => .error .malformed

/-- The codes of a text: two units that are a pair of surrogates are one character. -/
def joinUnits : List TextPart → Codes
  | .unit m :: .unit n :: ps =>
    if 0xD800 ≤ m ∧ m < 0xDC00 ∧ 0xDC00 ≤ n ∧ n < 0xE000 then
      .char (Char.ofNat (0x10000 + (m - 0xD800) * 0x400 + (n - 0xDC00))) :: joinUnits ps
    else .ofNat m :: joinUnits (.unit n :: ps)
  | .unit n :: ps => .ofNat n :: joinUnits ps
  | .code c :: ps => c :: joinUnits ps
  | [] => []

/-- The text behind an opening quote. -/
def readText (s : Codes) : Except ReadError (Codes × Codes) := do
  let (ps, s) ← readParts s []
  return (joinUnits ps, s)

/-! ## Numbers -/

/-- The number that decimal digits write. -/
def decimalValue (ds : List Char) : Nat := Nat.ofDigitChars 10 ds 0

/-- The digits of a fraction, if one follows. -/
def readFraction : Codes → List Char × Codes
  | .char '.' :: s => match spanDigits s with
    | ([], _) => ([], .char '.' :: s)
    | r => r
  | s => ([], s)

/-- The value of an exponent, if one follows. -/
def readExponent (s : Codes) : Option Int × Codes :=
  match s with
  | .char e :: t =>
    if e = 'e' ∨ e = 'E' then
      let (negative, t) := match t with
        | .char '-' :: t => (true, t)
        | .char '+' :: t => (false, t)
        | t => (false, t)
      match spanDigits t with
      | ([], _) => (none, s)
      | (ds, t) =>
        let n : Int := decimalValue ds
        (some (if negative then -n else n), t)
    else (none, s)
  | _ => (none, s)

/-- The whole part of a number: one zero, or digits that begin with another one. -/
def readWhole (s : Codes) : Option (List Char × Codes) :=
  match s with
  | .char '0' :: t => some (['0'], t)
  | _ => match spanDigits s with
    | ([], _) => none
    | r => some r

/-- A number behind its sign. -/
def readMagnitude (negative : Bool) (s : Codes) : Except ReadError (JsonNumber × Codes) :=
  match readWhole s with
  | none => .error .malformed
  | some (whole, s) =>
    let sign (n : Nat) : Int := if negative then -(n : Int) else n
    let (fraction, s) := readFraction s
    let (exponent, s) := readExponent s
    if fraction.isEmpty ∧ exponent.isNone then
      if whole.length > maxDigits then .error .overlong
      else .ok (.int (sign (decimalValue whole)), s)
    else .ok (.decimal (sign (decimalValue (whole ++ fraction)))
      (exponent.getD 0 - fraction.length), s)

/-! ## Values -/

/-- The named values. -/
def names : List (String × Json Codes) :=
  [("null", .null), ("true", .bool true), ("false", .bool false), ("NaN", .num .nan),
   ("Infinity", .num (.infinity false)), ("-Infinity", .num (.infinity true))]

/-- The named value at the beginning of the text. -/
def readNamed? (s : Codes) : Option (Json Codes × Codes) :=
  names.findSome? fun p => ((Code.ofText p.1).isPrefixOf? s).map (p.2, ·)

/-- A number. -/
def readNumber : Codes → Except ReadError (JsonNumber × Codes)
  | .char '-' :: s => readMagnitude true s
  | s => readMagnitude false s

/-- A value that is neither text nor array nor object. -/
def readScalar (s : Codes) : Except ReadError (Json Codes × Codes) :=
  match readNamed? s with
  | some r => .ok r
  | none => (readNumber s).map fun r => (.num r.1, r.2)

mutual

/-- The value at the beginning of the text. -/
def readValue (depth : Nat) : Nat → Codes → Except ReadError (Json Codes × Codes)
  | 0, _ => .error .malformed
  | fuel + 1, s => match s with
    | .char '"' :: s => do
      let (t, s) ← readText s
      return (.str t, s)
    | .char '[' :: s => match depth with
      | 0 => .error .tooDeep
      | depth + 1 => match skipGap s with
        | .char ']' :: s => .ok (.arr [], s)
        | s => do
          let (items, s) ← readItems depth fuel s
          return (.arr items, s)
    | .char '{' :: s => match depth with
      | 0 => .error .tooDeep
      | depth + 1 => match skipGap s with
        | .char '}' :: s => .ok (.obj [], s)
        | s => do
          let (members, s) ← readMembers depth fuel s
          return (.obj members, s)
    | s => readScalar s

/-- The items of an array up to its closing bracket. -/
def readItems (depth : Nat) : Nat → Codes → Except ReadError (List (Json Codes) × Codes)
  | 0, _ => .error .malformed
  | fuel + 1, s => do
    let (v, s) ← readValue depth fuel s
    match skipGap s with
    | .char ',' :: s =>
      let (vs, s) ← readItems depth fuel (skipGap s)
      return (v :: vs, s)
    | .char ']' :: s => return ([v], s)
    | _ => .error .malformed

/-- The members of an object up to its closing brace. -/
def readMembers (depth : Nat) :
    Nat → Codes → Except ReadError (List (Codes × Json Codes) × Codes)
  | 0, _ => .error .malformed
  | fuel + 1, s => match s with
    | .char '"' :: s => do
      let (name, s) ← readText s
      match skipGap s with
      | .char ':' :: s =>
        let (v, s) ← readValue depth fuel (skipGap s)
        match skipGap s with
        | .char ',' :: s =>
          let (ms, s) ← readMembers depth fuel (skipGap s)
          return ((name, v) :: ms, s)
        | .char '}' :: s => return ([(name, v)], s)
        | _ => .error .malformed
      | _ => .error .malformed
    | _ => .error .malformed

end

/-- A text without a byte order mark at its beginning. -/
def dropMark : Codes → Codes
  | .char '\uFEFF' :: s => s
  | s => s

/-- The value that a text holds. -/
def parse (text : Codes) : Except ReadError (Json Codes) := do
  let s := dropMark text
  let (v, s) ← readValue maxDepth (2 * s.length + 1) (skipGap s)
  if (skipGap s).isEmpty then return v else .error .malformed

end DiagramLint.Json
