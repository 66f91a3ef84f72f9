/-
  Fields of a form.

  * `FieldName`: a field has a name in camel case and one in snake case; of the two the first one
    counts if it is given, be its value good or bad;
  * `Duration`: a number that can be a time;
  * `Checked.integer`, `Checked.text` and so on: the value of a field by its type;
  * `FieldName.required`, `FieldName.optional`, `FieldName.withDefault`: a field that must be given,
    one that may be absent or null, and one that has a value when absent.
-/
import DiagramLint.Form.Checked
import DiagramLint.Form.Integer

namespace DiagramLint

/-! ## Values of fields -/

/-- How many milliseconds something took: a number that is read as a double, and as none below
    zero. -/
abbrev Duration := { t : JsonNumber // (t.hasDouble && t.isNonneg) = true }

/-- No time at all. -/
def Duration.zero : Duration := ⟨.decimal 0 0, rfl⟩

namespace Checked

/-- An integer. -/
def integer (path : List String) (v : Json) : Checked Int :=
  match integerOf v with
  | .ok n => ok n
  | .error p => fail path p v

/-- A value that is not less than the least one allowed. -/
def atLeast (least : Int) (path : List String) (n : Int) : Checked Int :=
  if n < least then fail path (.belowLeast least) else ok n

/-- An integer that is not less than the least one allowed. -/
def integerFrom (least : Int) (path : List String) (v : Json) : Checked Int :=
  (integer path v).andThen (atLeast least path)

/-- A count: an integer from zero on. -/
def count (path : List String) (v : Json) : Checked Nat :=
  (integerFrom 0 path v).map Int.toNat

/-- A duration. -/
def duration (path : List String) : Json → Checked Duration
  | .num t =>
    if ht : t.hasDouble then
      if hn : t.isNonneg then ok ⟨t, by rw [ht, hn]; rfl⟩ else fail path (.belowLeast 0) (.num t)
    else fail path .notNumber (.num t)
  | v => fail path .notNumber v

/-- A truth value. -/
def bool (path : List String) : Json → Checked Bool
  | .bool b => ok b
  | v => fail path .notBool v

/-- A text. -/
def text (path : List String) : Json → Checked String
  | .str s => ok s
  | v => fail path .notText v

/-- A list of any values. -/
def list (path : List String) : Json → Checked (List Json)
  | .arr items => ok items
  | v => fail path .notAList v

/-- The name of an error kind. -/
def errorKind (path : List String) (v : Json) : Checked ErrorKind :=
  match v.text?.map ErrorKind.read with
  | some (.ok k) => ok k
  | _ => fail path .notAKind v

/-- The name of a change. -/
def change (path : List String) (v : Json) : Checked ChangeType :=
  match v.text?.bind ChangeType.ofName? with
  | some c => ok c
  | none => fail path .notAChange v

/-- Nothing in the place of null, and what the check gives for any other value. -/
def orNull {α : Type} (check : List String → Json → Checked α) (path : List String) :
    Json → Checked (Option α)
  | .null => ok none
  | v => (check path v).map some

end Checked

/-! ## Names of fields -/

/-- The two names of a field. -/
structure FieldName where
  camel : String
  snake : String
  deriving Repr, DecidableEq

/-- Which of its names a field is written by. -/
inductive NameStyle where
  | camel
  | snake
  deriving Repr, DecidableEq

namespace FieldName

/-- The name of a field in a style. -/
def styled (n : FieldName) : NameStyle → String
  | .camel => n.camel
  | .snake => n.snake

variable {α : Type} (n : FieldName) (form : Json) (check : List String → Json → Checked α)

/-- A field with one name. -/
def single (name : String) : FieldName := ⟨name, name⟩

/-- The name that the field is given by, and its value. -/
def given? : Option (String × Json) :=
  match form.member? n.camel with
  | some v => some (n.camel, v)
  | none => (form.member? n.snake).map (n.snake, ·)

/-- A field that has the value `default` when it is not given. -/
def withDefault (default : α) : Checked α :=
  match n.given? form with
  | some (name, v) => check [name] v
  | none => .ok default

/-- A field that must be given. -/
def required : Checked α :=
  match n.given? form with
  | some (name, v) => check [name] v
  | none => .fail [n.camel] .missing form

/-- A field that may be absent or null. -/
def optional : Checked (Option α) := n.withDefault form (Checked.orNull check) none

end FieldName

end DiagramLint
