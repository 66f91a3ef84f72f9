/-
  Checking several fields.

  * `Checked α`: a value, or all the errors that stand in its way, in the order of the fields;
  * `Checked.seq`: of two fields that both fail, both errors are kept;
  * `Checked.andThen`: a check that needs the value runs only if there is one.

  `Checked.errors_seq` and `Checked.value?_seq` say what becomes of errors and values.
-/
import DiagramLint.Form.Problem

namespace DiagramLint

/-- A value, or the errors that stand in its way. -/
inductive Checked (α : Type) where
  | ok (a : α)
  | failed (first : FieldError) (others : List FieldError)
  deriving Repr, DecidableEq

namespace Checked

variable {α β : Type}

/-- The value, if nothing failed. -/
def value? : Checked α → Option α
  | ok a => some a
  | failed _ _ => none

/-- The errors. -/
def errors : Checked α → List FieldError
  | ok _ => []
  | failed e es => e :: es

/-- A check that failed for one reason, with the value at fault. -/
def fail (path : List String) (problem : FieldProblem) (v : Json := .null) : Checked α :=
  failed ⟨path, problem, v⟩ []

/-- The value under a function. -/
def map (f : α → β) : Checked α → Checked β
  | ok a => ok (f a)
  | failed e es => failed e es

/-- Two checks of which neither needs the other. -/
def seq : Checked (α → β) → Checked α → Checked β
  | ok f, c => c.map f
  | failed e es, c => failed e (es ++ c.errors)

/-- A check of the value that an earlier check gives. -/
def andThen : Checked α → (α → Checked β) → Checked β
  | ok a, f => f a
  | failed e es, _ => failed e es

instance : Functor Checked := ⟨map, fun a => map fun _ => a⟩
instance : Seq Checked := ⟨fun f c => seq f (c ())⟩

/-- The value, or the errors. -/
def toExcept : Checked α → Except (List FieldError) α
  | ok a => .ok a
  | failed e es => .error (e :: es)

/-- The errors with a name before their paths. -/
def under (name : String) : Checked α → Checked α
  | ok a => ok a
  | failed e es => failed (e.under name) (es.map (·.under name))

@[simp] theorem map_eq (f : α → β) (c : Checked α) : f <$> c = c.map f := rfl

@[simp] theorem seq_eq (f : Checked (α → β)) (c : Checked α) : f <*> c = f.seq c := rfl

@[simp] theorem errors_map (f : α → β) (c : Checked α) : (c.map f).errors = c.errors := by
  cases c <;> rfl

@[simp] theorem value?_map (f : α → β) (c : Checked α) : (c.map f).value? = c.value?.map f := by
  cases c <;> rfl

/-- **No error is lost**, and their order is that of the fields. -/
@[simp] theorem errors_seq (f : Checked (α → β)) (c : Checked α) :
    (f.seq c).errors = f.errors ++ c.errors := by
  cases f <;> cases c <;> rfl

@[simp] theorem value?_seq (f : Checked (α → β)) (c : Checked α) :
    (f.seq c).value? = f.value?.bind fun g => c.value?.map g := by
  cases f <;> cases c <;> rfl

end Checked

end DiagramLint
