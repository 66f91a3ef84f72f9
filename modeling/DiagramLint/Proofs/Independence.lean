/-
  What an answer depends on.

  A text is answered by the validator for its own dialect, and by no other.  So validators of other
  dialects may come, go or fail: they leave the answer, its events and all later answers alone.

  * `Submission.dialect c`: the dialect that is detected in the submission `c`.

  `validate_congr`: engines with the same validator for the dialect answer alike.
  `find?_run_of_forall_ne`: commands on other dialects leave the validator for a dialect in place.
-/
import DiagramLint.Proofs.Containment
import DiagramLint.Proofs.History

namespace DiagramLint

open Text

/-- The dialect of a submission; what is no text has none. -/
def Submission.dialect : Submission → Dialect
  | .text s => detect (lines s)
  | .notText => .unknown

/-! ## The dialect of an answer -/

namespace Engine

variable {e e' : Engine} {d : Dialect} {ls : List Line} {c : Submission} {x : Diagnostic}

/-- A fault is reported for the dialect that was detected before it. -/
theorem diagramType_validateLines (h : (e.validateLines d ls).value = .ok x) :
    x.diagramType = d.name := by
  rcases validateLines_cases h with ⟨f, -, -, -, htype, -⟩ | ⟨fault, -, hr⟩
  · exact htype
  · exact hr.diagramType

/-- **An answer names the dialect of the submission**, whatever the validators do. -/
theorem diagramType_validate (h : (e.validate c).value = .ok x) :
    x.diagramType = c.dialect.name := by
  cases c with
  | notText =>
    cases h
    rfl
  | text s =>
    by_cases hu : detect (lines s) = .unknown
    · rw [validate_text_of_unknown hu] at h
      cases h
      rw [Submission.dialect, hu]
      split <;> rfl
    · rw [validate_text_of_ne hu] at h
      exact diagramType_validateLines h

/-! ## Engines with the same validator -/

theorem examine_congr (h : e.registry.find? d = e'.registry.find? d) :
    e.examine d ls = e'.examine d ls := by
  rw [examine, examine, h]

theorem validateLines_congr (h : e.registry.find? d = e'.registry.find? d) :
    e.validateLines d ls = e'.validateLines d ls := by
  rw [validateLines, validateLines, examine_congr h]

/-- **Engines with the same validator for the dialect answer alike**, and so do all engines where
    there is no dialect. -/
theorem validate_congr
    (h : c.dialect = .unknown ∨ e.registry.find? c.dialect = e'.registry.find? c.dialect) :
    e.validate c = e'.validate c := by
  cases c with
  | notText => rfl
  | text s =>
    by_cases hu : detect (lines s) = .unknown
    · rw [validate_text_of_unknown hu, validate_text_of_unknown hu]
    · rw [validate_text_of_ne hu, validate_text_of_ne hu]
      exact validateLines_congr (h.resolve_left hu)

end Engine

/-! ## Changes for other dialects -/

theorem Registry.find?_apply_of_ne {r : Registry} (ch : Change) {d : Dialect}
    (h : ch.dialect ≠ d) : (r.apply ch).find? d = r.find? d := by
  cases ch with
  | put v => exact (find?_insert r v d).trans (if_neg h)
  | drop d' => exact (find?_erase r d' d).trans (if_neg h)

theorem Registry.find?_foldl_apply_of_forall_ne {r : Registry} {h : History} {d : Dialect}
    (hd : ∀ ch ∈ h, ch.dialect ≠ d) : (h.foldl apply r).find? d = r.find? d := by
  induction h generalizing r with
  | nil => rfl
  | cons ch h ih =>
    obtain ⟨hch, hd⟩ := List.forall_mem_cons.1 hd
    rw [List.foldl_cons, ih hd, find?_apply_of_ne ch hch]

namespace Engine

variable {e : Engine} {d : Dialect}

theorem find?_run_of_forall_ne {cs : List Command}
    (h : ∀ ch ∈ cs.filterMap Command.change?, ch.dialect ≠ d) :
    (e.run cs).1.registry.find? d = e.registry.find? d := by
  rw [registry_run_eq_foldl]
  exact Registry.find?_foldl_apply_of_forall_ne h

/-- **Validators do not interfere.**  Whatever validators two engines hold: what they answer names
    the dialect of the submission, and if they have the same validator for it, or both have none, or
    there is no dialect, then the answers are the same, and so are the events.  So an answer does not
    change when validators for other dialects are supplied, replaced, removed or fail, be it by many
    commands; and a validator for `unknown` is of no effect. -/
theorem validate_independent :
    (∀ (e e' : Engine) (c : Submission) (x x' : Diagnostic), (e.validate c).value = .ok x →
      (e'.validate c).value = .ok x' →
        x.diagramType = x'.diagramType ∧ x.diagramType = c.dialect.name) ∧
    (∀ (e e' : Engine) (c : Submission),
      c.dialect = .unknown ∨ e.registry.find? c.dialect = e'.registry.find? c.dialect →
        e.validate c = e'.validate c) ∧
    (∀ (e : Engine) (v : Validator) (c : Submission), v.dialect ≠ c.dialect →
      (e.insert v).validate c = e.validate c) ∧
    (∀ (e : Engine) (d : Dialect) (c : Submission), d ≠ c.dialect →
      (e.erase d).validate c = e.validate c) ∧
    (∀ (e : Engine) (cs : List Command) (c : Submission),
      (∀ ch ∈ cs.filterMap Command.change?, ch.dialect ≠ c.dialect) →
        (e.run cs).1.validate c = e.validate c) ∧
    ∀ (e : Engine) (b : Behaviour) (c : Submission),
      (e.insert ⟨.unknown, b⟩).validate c = e.validate c := by
  refine ⟨?_, fun e e' c => validate_congr, ?_, ?_, ?_, ?_⟩
  · intro e e' c x x' hx hx'
    rw [diagramType_validate hx, diagramType_validate hx']
    exact ⟨rfl, rfl⟩
  · intro e v c h
    exact validate_congr (.inr (Registry.find?_apply_of_ne (.put v) h))
  · intro e d c h
    exact validate_congr (.inr (Registry.find?_apply_of_ne (.drop d) h))
  · intro e cs c h
    exact validate_congr (.inr (find?_run_of_forall_ne h))
  · intro e b c
    refine validate_congr ?_
    -- a text of no dialect asks no validator, and for every other text `unknown` is another dialect
    by_cases hc : c.dialect = .unknown
    · exact .inl hc
    · exact .inr (Registry.find?_apply_of_ne (.put ⟨.unknown, b⟩) (Ne.symm hc))

/-- A validator that fails for flowcharts leaves sequence diagrams alone, and the validator for pie
    charts may go. -/
theorem validate_independent_crash :
    let c := Submission.text "sequenceDiagram\nA->>B: hi"
    let v : Validator := ⟨.flowchart, Validator.crashAlways "boom"⟩
    (standard.insert v).validate c = standard.validate c ∧
    (standard.erase .pie).validate c = standard.validate c ∧
    (standard.run [.supply v, .validate (.text "graph")]).1.validate c = standard.validate c ∧
    (ofValidators [v]).validate (.text "graph") = (standard.insert v).validate (.text "graph") ∧
    (∀ x, (standard.validate c).value = .ok x → x.diagramType = "sequence") := by
  intro c v
  obtain ⟨htype, hsame, hinsert, herase, hrun, -⟩ := validate_independent
  have hc : c.dialect = .sequence := by decide +kernel
  have hg : (Submission.text "graph").dialect = .flowchart := by decide +kernel
  have hv : v.dialect ≠ c.dialect := by rw [hc]; decide
  refine ⟨hinsert _ _ _ hv, herase _ _ _ (by rw [hc]; decide), hrun _ _ _ ?_, hsame _ _ _ ?_, ?_⟩
  · intro ch hch
    rw [List.filterMap_cons_some (Command.change?_supply v)] at hch
    obtain rfl := List.mem_singleton.1 hch
    exact hv
  · right
    rw [hg]
    rfl
  · intro x hx
    rw [(htype _ _ _ _ _ hx hx).2, hc]
    rfl

end Engine

end DiagramLint
