/-
  How the answer for a text comes about.

  A text without a dialect has its answer at once.  For every other text the validator of the
  dialect is asked, or there is none; what it finds becomes the diagnostic if it can.

  * `validate_text`, `validateText_of_unknown`, `validateText_of_ne`: which of these it is;
  * `validate_text_of_unknown`, `validate_text_of_ne`: the same for texts that may be empty;
  * `exists_validateLines_of_coherent`: a finding whose parts go together is reported as it is;
  * `validateLines_eq_error_iff`: the only way to no answer;
  * `value_validateRealtime_eq_ok_iff`: when an edit is answered, and how.
-/
import DiagramLint.Engine
import DiagramLint.Proofs.Scanning

namespace DiagramLint

open Text

namespace Engine

variable {e : Engine} {d : Dialect} {ls : List Line} {s : String}

/-! ## From a finding to a diagnostic -/

theorem assemble_of_ok {f : Finding} {x : Diagnostic}
    (h : Diagnostic.ofFinding d (elementCount ls) f = .ok x) : assemble d ls (.ok f) = .ok x := by
  show (Diagnostic.ofFinding d (elementCount ls) f).mapError Fault.incoherent = _
  rw [h]
  rfl

theorem assemble_of_error {f : Finding} {i : Incoherence}
    (h : Diagnostic.ofFinding d (elementCount ls) f = .error i) :
    assemble d ls (.ok f) = .error (.incoherent i) := by
  show (Diagnostic.ofFinding d (elementCount ls) f).mapError Fault.incoherent = _
  rw [h]
  rfl

/-- What is reported is a finding whose parts go together. -/
theorem assemble_eq_ok_iff {r : Except Fault Finding} {x : Diagnostic} :
    assemble d ls r = .ok x ↔ ∃ f, r = .ok f ∧ f.Coherent ∧ x.finding = f ∧
      x.diagramType = d.name ∧ x.elementCount = elementCount ls := by
  constructor
  · intro h
    cases r with
    | error fault => cases h
    | ok f =>
      refine ⟨f, rfl, ?_⟩
      cases hf : Diagnostic.ofFinding d (elementCount ls) f with
      | ok y =>
        rw [assemble_of_ok hf] at h
        cases h
        exact Diagnostic.of_ofFinding_eq_ok hf
      | error i =>
        rw [assemble_of_error hf] at h
        cases h
  · rintro ⟨f, rfl, hf⟩
    exact assemble_of_ok (Diagnostic.ofFinding_eq_ok_iff.2 hf)

/-- Nothing can be reported if the validator is at fault, or what it finds does not go together. -/
theorem assemble_eq_error_iff {r : Except Fault Finding} {fault : Fault} :
    assemble d ls r = .error fault ↔ r = .error fault ∨ ∃ f i, r = .ok f ∧
      Diagnostic.ofFinding d (elementCount ls) f = .error i ∧ fault = .incoherent i := by
  constructor
  · intro h
    cases r with
    | error fault' =>
      cases h
      exact .inl rfl
    | ok f =>
      cases hf : Diagnostic.ofFinding d (elementCount ls) f with
      | ok y =>
        rw [assemble_of_ok hf] at h
        cases h
      | error i =>
        rw [assemble_of_error hf] at h
        cases h
        exact .inr ⟨f, i, rfl, hf, rfl⟩
  · rintro (rfl | ⟨f, i, rfl, hf, rfl⟩)
    · rfl
    · exact assemble_of_error hf

/-! ## Asking the validator -/

theorem examine_of_some {v : Validator} (h : e.registry.find? d = some v) :
    e.examine d ls = ⟨v.run ls, []⟩ := by
  rw [examine, h]

theorem examine_of_none (h : e.registry.find? d = none) :
    e.examine d ls = ⟨.ok (.unsupported d), [.validatorMissing d]⟩ := by
  rw [examine, h]

theorem value_examine_of_some {v : Validator} (h : e.registry.find? d = some v) :
    (e.examine d ls).value = v.run ls := by
  rw [examine_of_some h]

theorem value_examine_of_none (h : e.registry.find? d = none) :
    (e.examine d ls).value = .ok (.unsupported d) := by
  rw [examine_of_none h]

/-- **A finding whose parts go together is reported as it is.** -/
theorem exists_validateLines_of_coherent {f : Finding} (h : (e.examine d ls).value = .ok f)
    (hf : f.Coherent) : ∃ x, (e.validateLines d ls).value = .ok x ∧ x.finding = f ∧
      x.diagramType = d.name ∧ x.elementCount = elementCount ls := by
  obtain ⟨x, hx⟩ := Diagnostic.exists_ofFinding_of_coherent d (elementCount ls) hf
  have ha : assemble d ls (.ok f) = .ok x :=
    assemble_eq_ok_iff.2 ⟨f, rfl, Diagnostic.of_ofFinding_eq_ok hx⟩
  refine ⟨x, ?_, (Diagnostic.of_ofFinding_eq_ok hx).2⟩
  rw [validateLines, Traced.value_andThen, h, ha]

/-- **There is no answer only for a fault whose text refers to a line by too many digits.** -/
theorem validateLines_eq_error_iff {o : OverlongNumber} :
    (e.validateLines d ls).value = .error o ↔ ∃ fault,
      assemble d ls (e.examine d ls).value = .error fault ∧
        lineReference fault.message = .error o := by
  rw [validateLines, Traced.value_andThen]
  cases assemble d ls (e.examine d ls).value with
  | ok x => simp
  | error fault =>
    simp only [Diagnostic.ofFault, Except.error.injEq, exists_eq_left']
    cases lineReference fault.message <;> simp [Except.map]

/-! ## Asking for the dialect -/

theorem validate_text (hs : s ≠ "") : e.validate (.text s) = e.validateText s := by
  simp [validate, hs]

theorem validateText_of_unknown (h : detect (lines s) = .unknown) :
    e.validateText s = ⟨.ok .noDialect, []⟩ := by
  simp [validateText, h]

theorem validateText_of_ne (h : detect (lines s) ≠ .unknown) :
    e.validateText s = e.validateLines (detect (lines s)) (lines s) := by
  unfold validateText
  split
  · next hd => exact absurd hd h
  · rfl

/-- A text of no dialect is refused by every engine alike, whatever validators it holds. -/
theorem validate_text_of_unknown (h : detect (lines s) = .unknown) :
    e.validate (.text s) = ⟨.ok (if s = "" then .noInput else .noDialect), []⟩ := by
  by_cases hs : s = ""
  · subst hs
    rfl
  · rw [validate_text hs, validateText_of_unknown h, if_neg hs]

theorem validate_text_of_ne (h : detect (lines s) ≠ .unknown) :
    e.validate (.text s) = e.validateLines (detect (lines s)) (lines s) := by
  -- an empty text has no dialect
  have hs : s ≠ "" := by
    rintro rfl
    exact h rfl
  rw [validate_text hs, validateText_of_ne h]

/-! ## Texts that are being edited -/

/-- An edit is answered by the diagnostic of its text, if the edit is described as it should be and
    the line of the diagnostic can be written. -/
theorem value_validateRealtime_eq_ok_iff {c : Submission} {change line : Json}
    {r : RealtimeDiagnostic} : (e.validateRealtime c change line).value = .ok r ↔
      ∃ x a, (e.validate c).value = .ok x ∧ x.hasUnwritableLine c.lineCount = false ∧
        (checkEdit change line).toExcept = .ok a ∧
        r = { x with change := a.1, lineNumber := a.2, message := x.summary } := by
  rw [validateRealtime, Traced.value_map]
  cases (e.validate c).value with
  | error o => simp
  | ok x =>
    cases hw : x.hasUnwritableLine c.lineCount with
    | true =>
      simp only [hw, if_true, reduceCtorEq, Except.ok.injEq, false_iff]
      rintro ⟨y, _, rfl, hy, -⟩
      cases hy.symm.trans hw
    | false =>
      simp only [hw, Except.ok.injEq, exists_and_left, exists_eq_left', true_and, Bool.false_eq_true,
        if_false]
      cases (checkEdit change line).toExcept with
      | error es => simp
      | ok a => simp [eq_comm]

end Engine

end DiagramLint
