/-
  The events of a validation.

  Validation leaves at one of five exits, and each has events of its own.

  * `Validator.FailsWith v d ls fault`: the validator fails on the lines, or what it finds cannot be
    reported for the dialect, and `fault` says why;
  * `Diagnostic.Carries x d ls f`: the diagnostic reports the finding as it is;
  * `Engine.Logs e c v es`: the submission leaves at an exit with the value `v` and the events `es`;
  * `Event.Tells ev x`: the event says of the diagnostic what its written form says.

  `logs_iff`: validation leaves at this exit and at no other one.
-/
import DiagramLint.Proofs.Containment
import DiagramLint.Wire

namespace DiagramLint

open Text

/-- The validator gives nothing that can be reported for the dialect, because of the fault. -/
def Validator.FailsWith (v : Validator) (d : Dialect) (ls : List Line) (fault : Fault) : Prop :=
  v.run ls = .error fault ∨ ∃ (f : Finding) (i : Incoherence),
    v.run ls = .ok f ∧ i.Explains d (elementCount ls) f ∧ fault = .incoherent i

/-- The diagnostic reports the finding as it is. -/
structure Diagnostic.Carries (x : Diagnostic) (d : Dialect) (ls : List Line) (f : Finding) : Prop where
  finding : x.finding = f
  diagramType : x.diagramType = d.name
  elementCount : x.elementCount = DiagramLint.elementCount ls

/-- What the log calls some fields of a diagnostic. -/
def loggedFields : List (String × FieldName) :=
  [("dialect", .diagramType), ("is_valid", .isValid), ("error_type", .kind), ("line", .line)]

/-- The event says of the diagnostic what its written form says. -/
def Event.Tells (ev : Event) (x : Diagnostic) : Prop :=
  ∀ p ∈ loggedFields, ∃ v, Json.lookup p.1 ev.details = some v ∧
    (x.toJson .camel).member? p.2.camel = some v

theorem Event.tells_validationComplete (x : Diagnostic) : (validationComplete x).Tells x := by
  intro p hp
  simp only [loggedFields, List.mem_cons, List.not_mem_nil, or_false] at hp
  rcases hp with rfl | rfl | rfl | rfl <;> exact ⟨_, rfl, rfl⟩

namespace Engine

/-- How validation leaves. -/
inductive Logs (e : Engine) : Submission → Except OverlongNumber Diagnostic → List Event → Prop
  | noInput {c} : c = .notText ∨ c = .text "" → Logs e c (.ok .noInput) []
  | noDialect {s} : s ≠ "" → detect (lines s) = .unknown → Logs e (.text s) (.ok .noDialect) []
  /-- The text of the fault may refer to a line by too many digits, and then there is no answer. -/
  | failed {s v fault} : detect (lines s) ≠ .unknown →
      e.registry.find? (detect (lines s)) = some v → v.FailsWith (detect (lines s)) (lines s) fault →
      Logs e (.text s) (Diagnostic.ofFault (detect (lines s)) fault.message)
        [.validationFailed (detect (lines s)) fault]
  | missing {s x} : detect (lines s) ≠ .unknown → e.registry.find? (detect (lines s)) = none →
      x.Carries (detect (lines s)) (lines s) (.unsupported (detect (lines s))) →
      Logs e (.text s) (.ok x) [.validatorMissing (detect (lines s)), .validationComplete x]
  | complete {s v f x} : detect (lines s) ≠ .unknown →
      e.registry.find? (detect (lines s)) = some v → v.run (lines s) = .ok f →
      x.Carries (detect (lines s)) (lines s) f → Logs e (.text s) (.ok x) [.validationComplete x]

variable {e : Engine} {v : Validator} {d : Dialect} {ls : List Line} {c : Submission}
  {f : Finding} {fault : Fault} {x : Diagnostic} {r : Except OverlongNumber Diagnostic}
  {es : List Event}

/-! ## One exit after the other -/

theorem validateLines_of_carries (h : (e.examine d ls).value = .ok f) (hx : x.Carries d ls f) :
    e.validateLines d ls = ⟨.ok x, (e.examine d ls).events ++ [.validationComplete x]⟩ := by
  have hf : f.Coherent := hx.finding ▸ x.coherent_finding
  have ha : assemble d ls (.ok f) = .ok x :=
    assemble_eq_ok_iff.2 ⟨f, rfl, hf, hx.finding, hx.diagramType, hx.elementCount⟩
  rw [validateLines, Traced.andThen, h, ha]
  rfl

theorem assemble_eq_error_iff_failsWith :
    assemble d ls (v.run ls) = .error fault ↔ v.FailsWith d ls fault := by
  simp only [assemble_eq_error_iff, Diagnostic.ofFinding_eq_error_iff, Validator.FailsWith]

theorem validateLines_of_failsWith (hv : e.registry.find? d = some v) (h : v.FailsWith d ls fault) :
    e.validateLines d ls = ⟨Diagnostic.ofFault d fault.message, [.validationFailed d fault]⟩ := by
  rw [validateLines, examine_of_some hv, Traced.andThen, assemble_eq_error_iff_failsWith.2 h]
  rfl

theorem Logs.validate_eq (h : e.Logs c r es) : e.validate c = ⟨r, es⟩ := by
  cases h with
  | noInput h =>
    rcases h with rfl | rfl
    · rfl
    · rfl
  | noDialect hs hd => rw [validate_text_of_unknown hd, if_neg hs]
  | failed hd hv h => rw [validate_text_of_ne hd, validateLines_of_failsWith hv h]
  | missing hd hv hx =>
    rw [validate_text_of_ne hd, validateLines_of_carries (value_examine_of_none hv) hx,
      examine_of_none hv]
    rfl
  | complete hd hv hf hx =>
    have hvalue : (e.examine _ _).value = .ok _ := (value_examine_of_some hv).trans hf
    rw [validate_text_of_ne hd, validateLines_of_carries hvalue hx, examine_of_some hv]
    rfl

/-! ## Every submission leaves at an exit -/

theorem exists_carries (d : Dialect) (ls : List Line) (h : f.Coherent) :
    ∃ x : Diagnostic, x.Carries d ls f := by
  obtain ⟨x, hx⟩ := Diagnostic.exists_ofFinding_of_coherent d (elementCount ls) h
  obtain ⟨-, hf, ht, hn⟩ := Diagnostic.of_ofFinding_eq_ok hx
  exact ⟨x, hf, ht, hn⟩

theorem exists_logs (e : Engine) (c : Submission) : ∃ r es, e.Logs c r es := by
  cases c with
  | notText => exact ⟨_, _, .noInput (.inl rfl)⟩
  | text s =>
    by_cases hs : s = ""
    · subst hs
      exact ⟨_, _, .noInput (.inr rfl)⟩
    by_cases hd : detect (lines s) = .unknown
    · exact ⟨_, _, .noDialect hs hd⟩
    cases hv : e.registry.find? (detect (lines s)) with
    | none =>
      obtain ⟨x, hx⟩ := exists_carries (detect (lines s)) (lines s)
        (Finding.coherent_unsupported (detect (lines s)))
      exact ⟨_, _, .missing hd hv hx⟩
    | some v =>
      cases hr : v.run (lines s) with
      | error fault => exact ⟨_, _, .failed hd hv (.inl hr)⟩
      | ok f =>
        by_cases hf : f.Coherent
        · obtain ⟨x, hx⟩ := exists_carries (detect (lines s)) (lines s) hf
          exact ⟨_, _, .complete hd hv hr hx⟩
        · obtain ⟨i, -, hi⟩ :=
            Diagnostic.exists_explains_of_not_coherent (detect (lines s)) (elementCount (lines s)) hf
          exact ⟨_, _, .failed hd hv (.inr ⟨f, i, hr, hi, rfl⟩)⟩

/-- **Validation leaves at one exit**, with the value and the events of this exit. -/
theorem logs_iff : e.Logs c r es ↔ e.validate c = ⟨r, es⟩ := by
  refine ⟨Logs.validate_eq, fun h => ?_⟩
  obtain ⟨r', es', h'⟩ := e.exists_logs c
  have heq := h'.validate_eq
  rw [h] at heq
  cases heq
  exact h'

theorem logs_validate (e : Engine) (c : Submission) :
    e.Logs c (e.validate c).value (e.validate c).events :=
  logs_iff.2 rfl

/-! ## What the log says -/

/-- The log says of an answer what the answer says, and reports no fault beside it. -/
theorem Logs.tells_of_complete (h : e.Logs c r es) {ev : Event} (hev : ev ∈ es)
    (hname : ev.name = "validation_complete") :
    (∃ x, r = .ok x ∧ ev.Tells x) ∧ ∀ ev' ∈ es, ev'.name ≠ "validation_failed" := by
  cases h with
  | noInput | noDialect => cases hev
  | failed =>
    rw [List.mem_singleton.1 hev] at hname
    simp [Event.name] at hname
  | missing =>
    rcases List.mem_cons.1 hev with rfl | hev
    · simp [Event.name] at hname
    · rw [List.mem_singleton.1 hev]
      exact ⟨⟨_, rfl, Event.tells_validationComplete _⟩, by simp [Event.name]⟩
  | complete =>
    rw [List.mem_singleton.1 hev]
    exact ⟨⟨_, rfl, Event.tells_validationComplete _⟩, by simp [Event.name]⟩

/-- The log names the dialect of the text and the text of the fault. -/
theorem Logs.details_of_failed (h : e.Logs c r es) {ev : Event} (hev : ev ∈ es)
    (hname : ev.name = "validation_failed") :
    ∃ s v fault, c = .text s ∧ e.registry.find? (detect (lines s)) = some v ∧
      v.FailsWith (detect (lines s)) (lines s) fault ∧
      ev.details = [("dialect", .str (detect (lines s)).name), ("error", .str fault.message)] := by
  cases h with
  | noInput | noDialect => cases hev
  | failed hd hv h =>
    rw [List.mem_singleton.1 hev]
    exact ⟨_, _, _, rfl, hv, h, rfl⟩
  | missing =>
    rcases List.mem_cons.1 hev with rfl | hev
    · simp [Event.name] at hname
    · rw [List.mem_singleton.1 hev] at hname
      simp [Event.name] at hname
  | complete =>
    rw [List.mem_singleton.1 hev] at hname
    simp [Event.name] at hname

/-- **The events of a validation are those of its exit.**  There are none for what is no text, is
    empty or has no dialect; there is the fault where the validator gives nothing that can be reported,
    be there an answer or not; and there is the answer where there is one, behind a warning if no
    validator is registered.  The log says of an answer what it says itself, and never reports a fault
    beside it.  An edit has the events of its text, however it is described. -/
theorem validate_logs (e : Engine) :
    (∀ c r es, e.Logs c r es ↔ e.validate c = ⟨r, es⟩) ∧
    (∀ c, ∀ ev ∈ (e.validate c).events, ev.name = "validation_complete" →
      (∃ x, (e.validate c).value = .ok x ∧ ev.Tells x) ∧
      ∀ ev' ∈ (e.validate c).events, ev'.name ≠ "validation_failed") ∧
    (∀ c, ∀ ev ∈ (e.validate c).events, ev.name = "validation_failed" →
      ∃ s v fault, c = .text s ∧ e.registry.find? (detect (lines s)) = some v ∧
        v.FailsWith (detect (lines s)) (lines s) fault ∧
        ev.details = [("dialect", .str (detect (lines s)).name), ("error", .str fault.message)]) ∧
    ∀ c change line, (e.validateRealtime c change line).events = (e.validate c).events := by
  refine ⟨fun _ _ _ => logs_iff, ?_, ?_, fun _ _ _ => rfl⟩
  · intro c ev hev hname
    exact (e.logs_validate c).tells_of_complete hev hname
  · intro c ev hev hname
    exact (e.logs_validate c).details_of_failed hev hname

/-- A validator that fails with a reference which is too long: there is no answer, and yet the fault
    is logged.  A dialect without a validator: the answer is logged behind a warning. -/
theorem validate_logs_overlong :
    let fault := Fault.crashed (String.ofList (referenceWord ++ List.replicate 5000 '1'))
    let e := ofValidators [⟨.flowchart, fun _ => .error fault⟩]
    e.validate (.text "graph") = ⟨.error ⟨5000⟩, [.validationFailed .flowchart fault]⟩ ∧
    ∃ x, e.validate (.text "pie") = ⟨.ok x, [.validatorMissing .pie, .validationComplete x]⟩ ∧
      (Event.validationComplete x).Tells x := by
  intro fault e
  have hgraph : detect (lines "graph") = .flowchart := by decide +kernel
  have hpie : detect (lines "pie") = .pie := by decide +kernel
  have hfault : Diagnostic.ofFault .flowchart fault.message = .error ⟨5000⟩ := by
    have hline : lineReference fault.message = .error ⟨5000⟩ := by
      refine lineReference_eq_error_iff.2 ⟨List.replicate 5000 '1', ?_, ?_, List.length_replicate⟩
      · rw [Fault.message, String.toList_ofList, referenceDigits?_replicate]
      · rw [List.length_replicate]
        decide
    rw [Diagnostic.ofFault, hline]
    rfl
  -- the long text of the fault is of no use from here on
  clear_value fault
  obtain ⟨hiff, htells, -, -⟩ := validate_logs e
  constructor
  · have h : e.validate (.text "graph") = _ := (hiff _ _ _).1
      (.failed (by simp [hgraph]) (by rw [hgraph]; rfl) (.inl rfl))
    rwa [hgraph, hfault] at h
  · obtain ⟨x, hx⟩ := exists_carries (detect (lines "pie")) (lines "pie")
      (Finding.coherent_unsupported _)
    have h : e.validate (.text "pie") = _ := (hiff _ _ _).1
      (.missing (by simp [hpie]) (by rw [hpie]; rfl) hx)
    rw [hpie] at h
    obtain ⟨⟨y, hy, ht⟩, -⟩ := htells (.text "pie") (.validationComplete x) (by simp [h]) rfl
    rw [h] at hy
    cases hy
    exact ⟨x, h, ht⟩

end Engine

end DiagramLint
