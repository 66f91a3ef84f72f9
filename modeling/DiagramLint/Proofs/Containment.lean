/-
  What becomes of the answer of a validator.

  A validator may answer with any finding, and may fail with any text.  A finding whose parts go
  together is reported as it is; everything else is reported as a fault, by its text.

  * `Incoherence.Explains i d n f`: the finding `f` is no diagnostic, and `i` says why;
  * `Readable m`: the first reference of the text `m` is not too long, and `referenceNumber? m` is the
    number that it gives;
  * `Diagnostic.ReportsFault x d m`: the diagnostic `x` reports the fault with the text `m`.

  `Diagnostic.ofFinding_eq_error_iff`: there is one reason, and it is the one that is given.
  `validateLines_cases`: an answer is one or the other.
-/
import DiagramLint.Proofs.Failure

namespace DiagramLint

open Text

/-! ## Findings that cannot be reported -/

/-- Why the finding is not reported, for the dialect and the count.  The line is looked at first. -/
def Incoherence.Explains (d : Dialect) (n : Nat) (f : Finding) : Incoherence → Prop
  | .lineTooSmall k => f.line = some k ∧ k < 1
  | .validWithError d' n' => d' = d ∧ n' = n ∧ (∀ k ∈ f.line, 1 ≤ k) ∧ f.isValid = true ∧
      ¬ (f.error = none ∧ f.kind = none ∧ f.line = none ∧ f.hint = none)
  | .invalidWithoutError d' n' => d' = d ∧ n' = n ∧ (∀ k ∈ f.line, 1 ≤ k) ∧ f.isValid = false ∧
      f.error = none

variable {d : Dialect} {n : Nat} {f : Finding} {i : Incoherence} {m : String} {x : Diagnostic}

theorem Incoherence.Explains.not_coherent (h : i.Explains d n f) : ¬ f.Coherent := by
  intro hc
  cases i with
  | lineTooSmall k => exact Int.not_le.2 h.2 (hc.line_pos k h.1)
  | validWithError =>
    obtain ⟨-, -, -, hv, hn⟩ := h
    exact hn (hc.valid hv)
  | invalidWithoutError =>
    obtain ⟨-, -, -, hv, he⟩ := h
    exact hc.invalid hv he

theorem Incoherence.Explains.unique {i' : Incoherence} (h : i.Explains d n f)
    (h' : i'.Explains d n f) : i = i' := by
  cases i with
  | lineTooSmall k =>
    cases i' with
    | lineTooSmall k' => rw [Option.some.inj (h.1.symm.trans h'.1)]
    | validWithError => exact absurd h.2 (Int.not_lt.2 (h'.2.2.1 k h.1))
    | invalidWithoutError => exact absurd h.2 (Int.not_lt.2 (h'.2.2.1 k h.1))
  | validWithError =>
    obtain ⟨rfl, rfl, hl, hv, -⟩ := h
    cases i' with
    | lineTooSmall k' => exact absurd h'.2 (Int.not_lt.2 (hl k' h'.1))
    | validWithError => rw [h'.1, h'.2.1]
    | invalidWithoutError => cases hv.symm.trans h'.2.2.2.1
  | invalidWithoutError =>
    obtain ⟨rfl, rfl, hl, hv, -⟩ := h
    cases i' with
    | lineTooSmall k' => exact absurd h'.2 (Int.not_lt.2 (hl k' h'.1))
    | validWithError => cases hv.symm.trans h'.2.2.2.1
    | invalidWithoutError => rw [h'.1, h'.2.1]

theorem Diagnostic.explains_of_ofFinding_eq_error (h : ofFinding d n f = .error i) :
    i.Explains d n f := by
  unfold ofFinding at h
  split at h
  · next k hk =>
    cases h
    obtain ⟨hl, hlt⟩ := Option.filter_eq_some_iff.1 hk
    exact ⟨hl, of_decide_eq_true hlt⟩
  next hk =>
  rw [filter_lt_eq_none_iff] at hk
  split at h
  · next hv =>
    split at h
    · cases h
    · next hn =>
      cases h
      exact ⟨rfl, rfl, hk, hv, hn⟩
  · next hv =>
    split at h
    · next he =>
      cases h
      exact ⟨rfl, rfl, hk, Bool.eq_false_iff.2 hv, he⟩
    · cases h

/-- A finding is reported, or there is a reason why not. -/
theorem Diagnostic.exists_explains_of_not_coherent (d : Dialect) (n : Nat) (h : ¬ f.Coherent) :
    ∃ i, ofFinding d n f = .error i ∧ i.Explains d n f := by
  cases hf : ofFinding d n f with
  | ok x => exact absurd (ofFinding_eq_ok_iff.1 hf).1 h
  | error i => exact ⟨i, rfl, explains_of_ofFinding_eq_error hf⟩

/-- **A finding is refused exactly for the reason that explains it.** -/
theorem Diagnostic.ofFinding_eq_error_iff : ofFinding d n f = .error i ↔ i.Explains d n f := by
  refine ⟨explains_of_ofFinding_eq_error, fun h => ?_⟩
  obtain ⟨i', hi', h'⟩ := exists_explains_of_not_coherent d n h.not_coherent
  rw [hi', h.unique h']

/-! ## Reports of a fault -/

/-- The first reference of the text has no more digits than are read. -/
def Readable (m : String) : Prop := ∀ ds ∈ referenceDigits? m.toList, ds.length ≤ maxReferenceDigits

/-- The number that the first reference of the text gives. -/
def referenceNumber? (m : String) : Option Nat :=
  (referenceDigits? m.toList).map fun ds => Nat.ofDigitChars 10 ds 0

theorem lineReference_of_readable (h : Readable m) : lineReference m = .ok (referenceNumber? m) := by
  unfold Readable at h
  unfold lineReference referenceNumber?
  cases hr : referenceDigits? m.toList with
  | none => rfl
  | some ds =>
    show (readReference ds).map some = _
    rw [readReference, if_pos (h ds hr)]
    rfl

theorem readable_iff : Readable m ↔ ∀ o, lineReference m ≠ .error o := by
  constructor
  · intro h o ho
    obtain ⟨ds, hds, hlt, -⟩ := lineReference_eq_error_iff.1 ho
    exact Nat.not_lt.2 (h ds hds) hlt
  · intro h ds hds
    by_contra hlt
    exact h ⟨ds.length⟩ (lineReference_eq_error_iff.2 ⟨ds, hds, Nat.lt_of_not_le hlt, rfl⟩)

/-- What is said about a finding whose parts do not go together is read. -/
theorem readable_incoherent (i : Incoherence) : Readable i.message :=
  readable_iff.2 (lineReference_incoherent_ne_error i)

theorem LineNumber.map_ofNat? (r : Option Nat) :
    (r.bind ofNat?).map (·.val) = r.filter (1 ≤ ·) := by
  cases r with
  | none => rfl
  | some n =>
    rw [Option.bind_some, ofNat?, Option.filter_some]
    split <;> rename_i h <;> simp [h, Nat.succ_le_iff]

/-- The diagnostic reports a fault by its text, with the line that the text refers to. -/
structure Diagnostic.ReportsFault (x : Diagnostic) (d : Dialect) (m : String) : Prop where
  isValid : x.isValid = false
  error : x.error = some m
  kind : x.kind = some .general
  line : x.line.map (·.val) = (referenceNumber? m).filter (1 ≤ ·)
  hint : x.hint = some ErrorKind.general.advice
  diagramType : x.diagramType = d.name
  elementCount : x.elementCount = 0

namespace Diagnostic

theorem reportsFault_of_ofFault (h : ofFault d m = .ok x) : x.ReportsFault d m := by
  unfold ofFault at h
  cases hr : lineReference m with
  | error o =>
    rw [hr] at h
    cases h
  | ok r =>
    rw [hr] at h
    cases h
    have hm : Readable m := readable_iff.2 fun o ho => by
      rw [hr] at ho
      cases ho
    rw [lineReference_of_readable hm] at hr
    cases hr
    exact ⟨rfl, rfl, rfl, LineNumber.map_ofNat? _, rfl, rfl, rfl⟩

theorem exists_ofFault (d : Dialect) (h : Readable m) :
    ∃ x, ofFault d m = .ok x ∧ x.ReportsFault d m := by
  obtain ⟨x, hx⟩ : ∃ x, ofFault d m = .ok x := by
    rw [ofFault, lineReference_of_readable h]
    exact ⟨_, rfl⟩
  exact ⟨x, hx, reportsFault_of_ofFault hx⟩

/-! ## The parts of a diagnostic -/

theorem isValid_iff_error (x : Diagnostic) : x.isValid = true ↔ x.error = none := by
  simp [isValid, error]

theorem error_iff_all (x : Diagnostic) :
    x.error = none ↔ x.error = none ∧ x.kind = none ∧ x.line = none ∧ x.hint = none := by
  refine ⟨fun h => ?_, And.left⟩
  have hp : x.verdict.problem? = none := by simpa [error] using h
  simp [error, kind, line, hint, hp]

end Diagnostic

/-! ## The engine -/

namespace Engine

variable {e : Engine} {v : Validator} {ls : List Line} {s : String} {fault : Fault}

theorem value_validateLines_of_fault (h : assemble d ls (e.examine d ls).value = .error fault) :
    (e.validateLines d ls).value = Diagnostic.ofFault d fault.message := by
  rw [validateLines, Traced.value_andThen, h]

/-- **An answer is a finding whose parts go together, or reports a fault.** -/
theorem validateLines_cases (h : (e.validateLines d ls).value = .ok x) :
    (∃ f, (e.examine d ls).value = .ok f ∧ f.Coherent ∧ x.finding = f ∧ x.diagramType = d.name ∧
      x.elementCount = elementCount ls) ∨
    ∃ fault, assemble d ls (e.examine d ls).value = .error fault ∧ x.ReportsFault d fault.message := by
  cases ha : assemble d ls (e.examine d ls).value with
  | ok y =>
    rw [validateLines, Traced.value_andThen, ha] at h
    cases h
    exact .inl (assemble_eq_ok_iff.1 ha)
  | error fault =>
    rw [value_validateLines_of_fault ha] at h
    exact .inr ⟨fault, rfl, Diagnostic.reportsFault_of_ofFault h⟩

theorem exists_validateLines_of_fault (h : assemble d ls (e.examine d ls).value = .error fault)
    (hr : Readable fault.message) :
    ∃ x, (e.validateLines d ls).value = .ok x ∧ x.ReportsFault d fault.message := by
  rw [value_validateLines_of_fault h]
  exact Diagnostic.exists_ofFault d hr

/-- A finding is reported as it is exactly if its parts go together. -/
theorem reported_iff_coherent (hv : e.registry.find? d = some v) (hf : v.run ls = .ok f) :
    (∃ x, (e.validateLines d ls).value = .ok x ∧ x.finding = f ∧ x.diagramType = d.name ∧
      x.elementCount = elementCount ls) ↔ f.Coherent := by
  constructor
  · rintro ⟨x, -, rfl, -⟩
    exact x.coherent_finding
  · intro hc
    exact exists_validateLines_of_coherent ((value_examine_of_some hv).trans hf) hc

theorem exists_report_of_incoherent (hv : e.registry.find? d = some v) (hf : v.run ls = .ok f)
    (hc : ¬ f.Coherent) : ∃ (i : Incoherence) (x : Diagnostic), i.Explains d (elementCount ls) f ∧
      (e.validateLines d ls).value = .ok x ∧ x.ReportsFault d i.message := by
  obtain ⟨i, hi, hex⟩ := Diagnostic.exists_explains_of_not_coherent d (elementCount ls) hc
  have ha : assemble d ls (e.examine d ls).value = .error (.incoherent i) := by
    rw [value_examine_of_some hv, hf]
    exact assemble_of_error hi
  obtain ⟨x, hx, hr⟩ := exists_validateLines_of_fault ha (readable_incoherent i)
  exact ⟨i, x, hex, hx, hr⟩

theorem exists_report_of_fault (hv : e.registry.find? d = some v) (hf : v.run ls = .error fault)
    (hr : Readable fault.message) :
    ∃ x, (e.validateLines d ls).value = .ok x ∧ x.ReportsFault d fault.message := by
  refine exists_validateLines_of_fault ?_ hr
  rw [value_examine_of_some hv, hf]
  rfl

/-- The count of an answer is that of its lines, or zero. -/
theorem elementCount_validate {c : Submission} (h : (e.validate c).value = .ok x) :
    x.elementCount = 0 ∨ ∃ s, c = .text s ∧ x.elementCount = elementCount (lines s) := by
  cases c with
  | notText =>
    cases h
    exact .inl rfl
  | text s =>
    by_cases hd : detect (lines s) = .unknown
    · rw [validate_text_of_unknown hd] at h
      cases h
      left
      split <;> rfl
    · rw [validate_text_of_ne hd] at h
      rcases validateLines_cases h with ⟨f, -, -, -, -, hn⟩ | ⟨fault, -, hr⟩
      · exact .inr ⟨s, rfl, hn⟩
      · exact .inl hr.elementCount

/-- **Faults are contained, and findings are reported faithfully.**  For a text of a dialect that has
    a validator, whatever the validator does: a finding is reported as it is exactly if its parts go
    together, and if not, a fault is reported that says why.  Where the validator itself fails, this
    fault is reported, if the reference in its text can be read.  Every answer at all is valid exactly
    if it names no error, which is if it names none of error, kind, line and advice; its line is
    positive, and its count is that of the lines, or zero. -/
theorem validate_contains_faults (e : Engine) :
    (∀ s v, detect (lines s) ≠ .unknown → e.registry.find? (detect (lines s)) = some v →
      (∀ f, v.run (lines s) = .ok f →
        ((∃ x, (e.validate (.text s)).value = .ok x ∧ x.finding = f ∧
          x.diagramType = (detect (lines s)).name ∧ x.elementCount = elementCount (lines s)) ↔
            f.Coherent) ∧
        (¬ f.Coherent → ∃ (i : Incoherence) (x : Diagnostic),
          i.Explains (detect (lines s)) (elementCount (lines s)) f ∧
          (e.validate (.text s)).value = .ok x ∧ x.ReportsFault (detect (lines s)) i.message)) ∧
      ∀ fault, v.run (lines s) = .error fault → Readable fault.message →
        ∃ x, (e.validate (.text s)).value = .ok x ∧
          x.ReportsFault (detect (lines s)) fault.message) ∧
    ∀ c x, (e.validate c).value = .ok x →
      (x.isValid = true ↔ x.error = none) ∧
      (x.error = none ↔ x.error = none ∧ x.kind = none ∧ x.line = none ∧ x.hint = none) ∧
      (∀ k ∈ x.line, 1 ≤ k.val) ∧
      (x.elementCount = 0 ∨ ∃ s, c = .text s ∧ x.elementCount = elementCount (lines s)) := by
  constructor
  · intro s v hd hv
    rw [validate_text_of_ne hd]
    refine ⟨fun f hf => ⟨reported_iff_coherent hv hf, fun hc => ?_⟩, fun fault hf hr => ?_⟩
    · exact exists_report_of_incoherent hv hf hc
    · exact exists_report_of_fault hv hf hr
  · intro c x hx
    exact ⟨x.isValid_iff_error, x.error_iff_all, fun k _ => k.property, elementCount_validate hx⟩

/-- A validator that fails in line 3, and one that accepts and yet names a line. -/
theorem validate_contains_faults_line :
    (∃ x, ((ofValidators [⟨.flowchart, Validator.crashAlways "broken at Line 3"⟩]).validate
        (.text "graph")).value = .ok x ∧
      x.error = some "broken at Line 3" ∧ x.line.map (·.val) = some 3 ∧ x.diagramType = "graph") ∧
    ∃ x, ((ofValidators [⟨.flowchart, fun _ => .ok { Finding.accepted with line := some 2 }⟩]).validate
        (.text "graph")).value = .ok x ∧
      x.isValid = false ∧ x.error = some (Incoherence.validWithError .flowchart 1).message := by
  have hd : detect (lines "graph") = .flowchart := by decide +kernel
  have hn : elementCount (lines "graph") = 1 := by decide +kernel
  have hu : detect (lines "graph") ≠ .unknown := by
    rw [hd]
    decide
  constructor
  · obtain ⟨-, hfault⟩ := (validate_contains_faults (ofValidators
      [⟨.flowchart, Validator.crashAlways "broken at Line 3"⟩])).1 "graph" _ hu (by rw [hd]; rfl)
    have hr : referenceDigits? "broken at Line 3".toList = some ['3'] := by decide +kernel
    obtain ⟨x, hx, hx'⟩ := hfault (.crashed "broken at Line 3") rfl (by
      intro ds hds
      rw [Fault.message, hr] at hds
      cases hds
      decide)
    refine ⟨x, hx, hx'.error, ?_, ?_⟩
    · rw [hx'.line, Fault.message, referenceNumber?, hr]
      rfl
    · rw [hx'.diagramType, hd]
      rfl
  · obtain ⟨hfinding, -⟩ := (validate_contains_faults (ofValidators
      [⟨.flowchart, fun _ => .ok { Finding.accepted with line := some 2 }⟩])).1 "graph" _ hu
        (by rw [hd]; rfl)
    obtain ⟨-, hincoherent⟩ := hfinding { Finding.accepted with line := some 2 } rfl
    have hc : ¬ ({ Finding.accepted with line := some 2 } : Finding).Coherent := by
      intro hc
      have hl := (hc.valid rfl).2.2.1
      cases hl
    obtain ⟨i, x, hi, hx, hx'⟩ := hincoherent hc
    rw [hd, hn] at hi
    refine ⟨x, hx, hx'.isValid, ?_⟩
    cases i with
    | lineTooSmall k =>
      obtain ⟨hk, hlt⟩ := hi
      cases hk
      cases hlt
    | validWithError =>
      obtain ⟨rfl, rfl, -⟩ := hi
      exact hx'.error
    | invalidWithoutError =>
      obtain ⟨-, -, -, hv, -⟩ := hi
      cases hv

/-- A validator for `unknown` is not asked, so what it finds is not reported. -/
theorem accepting_unknown_not_reported :
    let v : Validator := ⟨.unknown, Validator.acceptAll⟩
    let e := ofValidators [v]
    detect (lines "hello") = .unknown ∧ e.registry.find? (detect (lines "hello")) = some v ∧
      v.run (lines "hello") = .ok .accepted ∧ Finding.Coherent .accepted ∧
      ¬ ∃ x, (e.validate (.text "hello")).value = .ok x ∧ x.finding = .accepted := by
  intro v e
  have hd : detect (lines "hello") = .unknown := by decide +kernel
  refine ⟨hd, by rw [hd]; rfl, rfl, Finding.coherent_accepted, ?_⟩
  rintro ⟨x, hx, hf⟩
  rw [validate_text_of_unknown hd, if_neg (by decide)] at hx
  cases hx
  cases congrArg Finding.isValid hf

end Engine

end DiagramLint
