/-
  What a scan finds.

  A finding is what any validator may answer, so its parts need not go together: a diagram may be
  found valid and yet come with an error.  `Finding.Coherent` says when they do.
-/
import DiagramLint.ErrorKind

namespace DiagramLint

/-- The answer of one validator for one diagram. -/
structure Finding where
  isValid : Bool
  error : Option String := none
  kind : Option ErrorKind := none
  line : Option Int := none
  hint : Option String := none
  deriving Repr, DecidableEq

namespace Finding

/-- Nothing is wrong. -/
def accepted : Finding where
  isValid := true

/-- Something is wrong, perhaps in a line, perhaps with advice. -/
def rejected (kind : ErrorKind) (error : String) (line : Option Int) (hint : Option String) :
    Finding where
  isValid := false
  error := some error
  kind := some kind
  line := line
  hint := hint

/-- The parts go together: a line number is positive, a valid diagram comes with no error, and an
    invalid one with an error message. -/
structure Coherent (f : Finding) : Prop where
  line_pos : ∀ n ∈ f.line, 1 ≤ n
  valid : f.isValid = true → f.error = none ∧ f.kind = none ∧ f.line = none ∧ f.hint = none
  invalid : f.isValid = false → f.error ≠ none

theorem coherent_accepted : Coherent accepted where
  line_pos := by simp [accepted]
  valid _ := ⟨rfl, rfl, rfl, rfl⟩
  invalid h := by simp [accepted] at h

theorem coherent_rejected {kind : ErrorKind} {error : String} {line : Option Int}
    {hint : Option String} (h : ∀ n ∈ line, 1 ≤ n) : Coherent (rejected kind error line hint) where
  line_pos := h
  valid h' := by simp [rejected] at h'
  invalid _ := by simp [rejected]

end Finding

end DiagramLint
