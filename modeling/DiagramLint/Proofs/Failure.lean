/-
  When there is no answer.

  A validator may fail with any text.  The text is reported, with the line that it refers to; only
  a reference by more digits than are read leaves nothing to report.

  * `Engine.Overlong e c n`: this is what happens to the submission `c`, with `n` digits;
  * `referenceDigits?_line`: what the reference is in a text that opens with one;
  * `length_message_lt`: what is said about a finding whose parts do not go together is too short
    for a reference of that kind;
  * `validateFrom_eq_ok_iff`: a batch is answered item by item.
-/
import Mathlib.Data.List.Forall2
import DiagramLint.Proofs.Validation

namespace DiagramLint

open Text

/-! ## References -/

theorem length_digitsHere_le (s : List Char) : (digitsHere s).length ≤ s.length := by
  unfold digitsHere
  split
  · calc ((s.drop 5).takeWhile Char.isDigit).length
        ≤ (s.drop 5).length := (List.takeWhile_sublist _).length_le
      _ ≤ s.length := (List.drop_sublist 5 s).length_le
  · exact Nat.zero_le _

theorem length_le_of_referenceDigits? {s ds : List Char} (h : referenceDigits? s = some ds) :
    ds.length ≤ s.length := by
  induction s with
  | nil => cases h
  | cons c s ih =>
    unfold referenceDigits? at h
    split at h
    · exact Nat.le_trans (ih h) (Nat.le_succ _)
    · cases h
      exact length_digitsHere_le (c :: s)

theorem referenceDigits?_line {d : Char} {ds : List Char} (h : ∀ c ∈ d :: ds, c.isDigit = true) :
    referenceDigits? (referenceWord ++ d :: ds) = some (d :: ds) := by
  have hd : digitsHere (referenceWord ++ d :: ds) = d :: ds := by
    unfold digitsHere
    rw [if_pos (by simp [referenceWord]; decide)]
    exact takeWhile_isDigit_eq_self h
  have hs : referenceWord ++ d :: ds = 'l' :: ("ine ".toList ++ d :: ds) := rfl
  rw [hs] at hd ⊢
  unfold referenceDigits?
  rw [hd]

/-- A reference by the digit one, as often as it is wanted. -/
theorem referenceDigits?_replicate (n : Nat) :
    referenceDigits? (referenceWord ++ List.replicate (n + 1) '1') =
      some (List.replicate (n + 1) '1') := by
  rw [List.replicate_succ]
  refine referenceDigits?_line fun c hc => ?_
  rw [← List.replicate_succ, List.mem_replicate] at hc
  rw [hc.2]
  rfl

/-- A message is too much for its reference if the first one has more digits than are read. -/
theorem lineReference_eq_error_iff {m : String} {o : OverlongNumber} :
    lineReference m = .error o ↔ ∃ ds, referenceDigits? m.toList = some ds ∧
      maxReferenceDigits < ds.length ∧ ds.length = o.digits := by
  unfold lineReference
  cases referenceDigits? m.toList with
  | none => simp
  | some ds =>
    simp only [readReference, Option.some.injEq, exists_eq_left']
    split
    · next h => simp [Except.map, Nat.not_lt.2 h]
    · next h =>
      obtain ⟨n⟩ := o
      simp [Except.map, Nat.lt_of_not_le h]

/-! ## Messages about incoherent findings -/

theorem length_mistakeReport_le (place problem tag value type : String) :
    (mistakeReport place problem tag value type).length ≤
      place.length + problem.length + 2 * tag.length + type.length + 200 := by
  have hx : (excerpt value).length ≤ 52 := length_excerpt_le value
  have h₁ : "1 validation error for Diagnostic\n".length = 34 := by decide +kernel
  have h₂ : "  ".length = 2 := by decide +kernel
  have h₃ : " [type=".length = 7 := by decide +kernel
  have h₄ : ", input_value=".length = 14 := by decide +kernel
  have h₅ : ", input_type=".length = 13 := by decide +kernel
  have h₆ : "]\n    For further information visit ".length = 36 := by decide +kernel
  have h₇ : mistakePages.length = 35 := by decide +kernel
  unfold mistakeReport
  simp only [String.length_append, h₁, h₂, h₃, h₄, h₅, h₆, h₇]
  omega

/-- What is said about a finding whose parts do not go together is short. -/
theorem length_message_lt (i : Incoherence) : i.message.length < maxReferenceDigits := by
  cases i with
  | lineTooSmall n =>
    exact Nat.lt_of_le_of_lt (length_mistakeReport_le ..) (by decide +kernel)
  | validWithError d n =>
    exact Nat.lt_of_le_of_lt (length_mistakeReport_le ..) (by decide +kernel)
  | invalidWithoutError d n =>
    exact Nat.lt_of_le_of_lt (length_mistakeReport_le ..) (by decide +kernel)

theorem lineReference_incoherent_ne_error (i : Incoherence) (o : OverlongNumber) :
    lineReference (Fault.incoherent i).message ≠ .error o := by
  rw [Ne, lineReference_eq_error_iff]
  rintro ⟨ds, hds, hlt, -⟩
  have h₁ : ds.length ≤ i.message.length := length_le_of_referenceDigits? hds
  have h₂ := length_message_lt i
  omega

namespace Engine

variable {e : Engine} {c : Submission}

/-! ## Which submissions have no answer -/

/-- The validator for the dialect of the submission fails, and the first reference in the text of
    its fault has `n` digits, which are more than are read. -/
def Overlong (e : Engine) (c : Submission) (n : Nat) : Prop :=
  ∃ s v fault ds, c = .text s ∧ detect (lines s) ≠ .unknown ∧
    e.registry.find? (detect (lines s)) = some v ∧ v.run (lines s) = .error fault ∧
    referenceDigits? fault.message.toList = some ds ∧ ds.length = n ∧ maxReferenceDigits < n

/-- A diagram of a dialect has no answer only if its validator fails. -/
theorem validateLines_eq_error_iff_run {d : Dialect} {ls : List Line} {o : OverlongNumber} :
    (e.validateLines d ls).value = .error o ↔ ∃ v fault, e.registry.find? d = some v ∧
      v.run ls = .error fault ∧ lineReference fault.message = .error o := by
  rw [validateLines_eq_error_iff]
  simp only [assemble_eq_error_iff]
  constructor
  · rintro ⟨fault, h | ⟨f, i, -, -, rfl⟩, ho⟩
    · cases hv : e.registry.find? d with
      | none => rw [value_examine_of_none hv] at h; cases h
      | some v => exact ⟨v, fault, rfl, value_examine_of_some hv ▸ h, ho⟩
    · exact absurd ho (lineReference_incoherent_ne_error i o)
  · rintro ⟨v, fault, hv, h, ho⟩
    exact ⟨fault, .inl ((value_examine_of_some hv).trans h), ho⟩

theorem validate_eq_error_iff {o : OverlongNumber} :
    (e.validate c).value = .error o ↔ e.Overlong c o.digits := by
  cases c with
  | notText =>
    constructor
    · rintro ⟨⟩
    · rintro ⟨s, -, -, -, ⟨⟩, -⟩
  | text s =>
    have hempty : detect (lines "") = .unknown := rfl
    have hiff : e.Overlong (.text s) o.digits ↔ detect (lines s) ≠ .unknown ∧
        ∃ v fault, e.registry.find? (detect (lines s)) = some v ∧ v.run (lines s) = .error fault ∧
          lineReference fault.message = .error o := by
      simp only [lineReference_eq_error_iff]
      constructor
      · rintro ⟨_, v, fault, ds, ⟨⟩, hd, hv, hr, hds, hn, hlt⟩
        exact ⟨hd, v, fault, hv, hr, ds, hds, hn ▸ hlt, hn⟩
      · rintro ⟨hd, v, fault, hv, hr, ds, hds, hlt, hn⟩
        exact ⟨s, v, fault, ds, rfl, hd, hv, hr, hds, hn, hn ▸ hlt⟩
    rw [hiff]
    by_cases hs : s = ""
    · subst hs
      simp [validate, hempty]
    rw [validate_text hs]
    by_cases hd : detect (lines s) = .unknown
    · simp [validateText_of_unknown hd, hd]
    · rw [validateText_of_ne hd, validateLines_eq_error_iff_run, and_iff_right hd]

theorem exists_validate_eq_ok_iff :
    (∃ d, (e.validate c).value = .ok d) ↔ ¬ ∃ n, e.Overlong c n := by
  cases h : (e.validate c).value with
  | ok d =>
    simp only [Except.ok.injEq, exists_eq', true_iff]
    rintro ⟨n, hn⟩
    rw [validate_eq_error_iff (o := ⟨n⟩) |>.2 hn] at h
    cases h
  | error o =>
    simp only [reduceCtorEq, exists_false, false_iff, not_not]
    exact ⟨_, validate_eq_error_iff.1 h⟩

/-! ## Batches -/

/-- **A batch is answered if each item is**, with the answers in the order of the items. -/
theorem validateFrom_eq_ok_iff {i : Nat} {cs : List Submission} {bs : List BatchDiagnostic} :
    (e.validateFrom i cs).value = .ok bs ↔ ∃ ds,
      List.Forall₂ (fun c d => (e.validate c).value = .ok d) cs ds ∧
        bs = ds.mapIdx fun k d => ⟨d, i + k⟩ := by
  induction cs generalizing i bs with
  | nil => simp [validateFrom, eq_comm]
  | cons c cs ih =>
    rw [validateFrom, Traced.value_andThen]
    simp only [List.forall₂_cons_left_iff]
    cases hc : (e.validate c).value with
    | error o =>
      simp only [reduceCtorEq, false_iff]
      rintro ⟨_, ⟨d, ds, ⟨⟩, -⟩, -⟩
    | ok d =>
      simp only [Traced.value_map]
      have hm : ((e.validateFrom (i + 1) cs).value.map (⟨d, i⟩ :: ·)) = .ok bs ↔
          ∃ bs', (e.validateFrom (i + 1) cs).value = .ok bs' ∧ bs = ⟨d, i⟩ :: bs' := by
        cases (e.validateFrom (i + 1) cs).value <;> simp [Except.map, eq_comm]
      rw [hm]
      constructor
      · rintro ⟨bs', hbs', rfl⟩
        obtain ⟨ds, hds, rfl⟩ := ih.1 hbs'
        refine ⟨d :: ds, ⟨d, ds, rfl, hds, rfl⟩, ?_⟩
        simp [List.mapIdx_cons, Nat.add_assoc, Nat.add_comm 1]
      · rintro ⟨_, ⟨_, ds, ⟨⟩, hds, rfl⟩, rfl⟩
        refine ⟨_, ih.2 ⟨ds, hds, rfl⟩, ?_⟩
        simp [List.mapIdx_cons, Nat.add_assoc, Nat.add_comm 1]

theorem value_validateBatch_eq_ok_iff {cs : List Submission} {bs : List BatchDiagnostic} :
    (e.validateBatch cs).value = .ok bs ↔ (e.validateFrom 0 cs).value = .ok bs := by
  rw [validateBatch, Traced.value_andThen]
  cases (e.validateFrom 0 cs).value <;> simp

theorem exists_validateBatch_eq_ok_iff {cs : List Submission} :
    (∃ bs, (e.validateBatch cs).value = .ok bs) ↔ ∀ c ∈ cs, ¬ ∃ n, e.Overlong c n := by
  simp only [value_validateBatch_eq_ok_iff, validateFrom_eq_ok_iff, ← exists_validate_eq_ok_iff]
  rw [exists_comm]
  simp only [exists_and_left, exists_eq, and_true]
  induction cs with
  | nil => simp
  | cons c cs ih =>
    rw [List.forall_mem_cons, ← ih]
    constructor
    · rintro ⟨ds, h⟩
      obtain ⟨d, ds', hc, hcs, -⟩ := List.forall₂_cons_left_iff.1 h
      exact ⟨⟨d, hc⟩, ds', hcs⟩
    · rintro ⟨⟨d, hc⟩, ds, hcs⟩
      exact ⟨d :: ds, .cons hc hcs⟩

theorem length_of_validateBatch_eq_ok {cs : List Submission} {bs : List BatchDiagnostic}
    (h : (e.validateBatch cs).value = .ok bs) : bs.length = cs.length := by
  obtain ⟨ds, hds, rfl⟩ := validateFrom_eq_ok_iff.1 (value_validateBatch_eq_ok_iff.1 h)
  rw [List.length_mapIdx, hds.length_eq]

/-- **There is always an answer, but for an overlong fault.**  Whatever validators an engine holds
    and whatever is submitted: the answer is a diagnostic, unless the validator that is asked fails
    with a text whose first reference has more digits than are read.  A batch without such an item
    has as many answers as it has items. -/
theorem validate_answers_iff (e : Engine) :
    (∀ c, (∃ d, (e.validate c).value = .ok d) ↔ ¬ ∃ n, e.Overlong c n) ∧
    (∀ c n, (e.validate c).value = .error ⟨n⟩ ↔ e.Overlong c n) ∧
    ∀ cs, ((∃ bs, (e.validateBatch cs).value = .ok bs) ↔ ∀ c ∈ cs, ¬ ∃ n, e.Overlong c n) ∧
      ∀ bs, (e.validateBatch cs).value = .ok bs → bs.length = cs.length :=
  ⟨fun _ => exists_validate_eq_ok_iff, fun _ _ => validate_eq_error_iff,
    fun _ => ⟨exists_validateBatch_eq_ok_iff, fun _ => length_of_validateBatch_eq_ok⟩⟩

/-- A validator may fail with such a text. -/
theorem validate_crashing_overlong :
    ((ofValidators [⟨.flowchart, Validator.crashAlways
        (String.ofList (referenceWord ++ List.replicate 5000 '1'))⟩]).validate
      (.text "graph")).value = .error ⟨5000⟩ := by
  rw [validate_eq_error_iff]
  have hd : detect (lines "graph") = .flowchart := by decide +kernel
  refine ⟨"graph", _, .crashed _, List.replicate 5000 '1', rfl, ?_, by rw [hd]; rfl, rfl, ?_, ?_, ?_⟩
  · rw [hd]
    decide
  · rw [Fault.message, String.toList_ofList, referenceDigits?_replicate]
  · rw [List.length_replicate]
  · decide

end Engine

end DiagramLint
