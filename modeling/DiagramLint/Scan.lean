/-
  Scanning the lines of a diagram by a table.

  One pass goes through the lines from the top.  A line that counts is a declaration, has a shape or
  is a marker; the first that is none of these ends the pass.  A pass that reaches the end asks
  whether a declaration was seen, and then whether the required shape was.

  * `LineRole` and `RuleTable.role`: what a trimmed line is for a table;
  * `Seen`: what the pass remembers of the lines behind it;
  * `RuleTable.scan`: the pass over all lines.
-/
import DiagramLint.Finding
import DiagramLint.Meaningful
import DiagramLint.RuleTable

namespace DiagramLint

open Text

/-- What a line is for a table. -/
inductive LineRole where
  | declaration
  /-- The line has the shape of that name. -/
  | shape (name : String)
  | marker
  /-- None of the others. -/
  | stray
  deriving Repr, DecidableEq

/-- What the pass remembers of the lines behind it. -/
structure Seen where
  /-- There was a declaration. -/
  declaration : Bool
  /-- The required shape occurred, or none is required. -/
  required : Bool
  deriving Repr, DecidableEq

namespace RuleTable

variable (t : RuleTable)

/-- What a trimmed line is: a declaration first of all, then the first shape that it has, then a
    marker. -/
def role (l : Line) : LineRole :=
  if t.declaration.accepts l then .declaration
  else match t.shapes.find? (·.accepts l) with
    | some r => .shape r.name
    | none => if t.markers.any (·.accepts l) then .marker else .stray

/-- What is remembered after a line. -/
def remember (seen : Seen) : LineRole → Seen
  | .declaration => { seen with declaration := true }
  | .shape name => { seen with required := seen.required || some name == t.required }
  | .marker | .stray => seen

/-- The finding for a line that is none of what the table knows. -/
def strayLine (n : Nat) (l : Line) : Finding :=
  .rejected .badSyntax ("Invalid " ++ t.label ++ " syntax: \"" ++ String.ofList l ++ "\"")
    (some (n : Int)) (some t.hint)

/-- The finding for a diagram without a declaration. -/
def missingDeclaration : Finding :=
  .rejected .noType ("Missing " ++ t.label ++ " declaration") (some 1)
    (some ("Add \"" ++ t.declarationToken ++ "\" at the beginning"))

/-- The message for a diagram without the required shape; an empty one gives way to the common
    one. -/
def missingText : String :=
  match t.missingMessage with
  | none | some "" => "No " ++ t.required.getD "None" ++ " lines found"
  | some m => m

/-- The finding for a diagram without the required shape. -/
def missingRequired : Finding :=
  .rejected .noData t.missingText (some 2) t.missingHint

/-- The finding at the end of the pass. -/
def conclude (seen : Seen) : Finding :=
  if !seen.declaration then t.missingDeclaration
  else if !seen.required then t.missingRequired
  else .accepted

/-- The pass from line number `n` on. -/
def scanFrom (n : Nat) (seen : Seen) : List Line → Finding
  | [] => t.conclude seen
  | l :: ls =>
    if isMeaningful (trim l) then
      match t.role (trim l) with
      | .stray => t.strayLine n (trim l)
      | role => scanFrom (n + 1) (t.remember seen role) ls
    else scanFrom (n + 1) seen ls

/-- What is remembered before the first line. -/
def start : Seen := ⟨false, t.required.isNone⟩

/-- The finding for the lines of a diagram. -/
def scan (ls : List Line) : Finding := t.scanFrom 1 t.start ls

/-! ## The pass, line by line -/

@[simp] theorem scanFrom_nil (n : Nat) (seen : Seen) : t.scanFrom n seen [] = t.conclude seen := rfl

variable {t} {n : Nat} {seen : Seen} {l : Line}

/-- A line that does not count is passed over, but has a number. -/
theorem scanFrom_cons_of_not (ls : List Line) (h : isMeaningful l = false) :
    t.scanFrom n seen (l :: ls) = t.scanFrom (n + 1) seen ls := by
  simp [scanFrom, h]

/-- A stray line ends the pass, whatever follows. -/
theorem scanFrom_cons_of_stray (ls : List Line) (h : isMeaningful l = true)
    (hr : t.role (trim l) = .stray) : t.scanFrom n seen (l :: ls) = t.strayLine n (trim l) := by
  simp [scanFrom, h, hr]

/-- Every other line that counts is remembered for what it is. -/
theorem scanFrom_cons_of_ne_stray (ls : List Line) (h : isMeaningful l = true)
    (hr : t.role (trim l) ≠ .stray) :
    t.scanFrom n seen (l :: ls) = t.scanFrom (n + 1) (t.remember seen (t.role (trim l))) ls := by
  rw [scanFrom, isMeaningful_trim, if_pos h]
  split
  · next hs => exact absurd hs hr
  · rfl

end RuleTable

end DiagramLint
