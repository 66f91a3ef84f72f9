/-
  Batches.

  A batch is answered item by item, and its events are those of the items.  Only an item without an
  answer ends it early.

  * `BatchDiagnostic.shift n b`: the diagnostic `b` behind `n` more items;
  * `inPlaces ds`: the diagnostics `ds`, each with its place;
  * `Engine.Answers e cs ds`: the engine answers the submissions `cs` by the diagnostics `ds`.

  `validateBatch_of_answers` and `validateBatch_of_first_error`: the two ways in which a batch ends.
-/
import DiagramLint.Proofs.Events
import DiagramLint.Proofs.RoundTrip

namespace DiagramLint

open Text

/-- The same diagnostic in a batch with `n` more items in front. -/
def BatchDiagnostic.shift (n : Nat) (b : BatchDiagnostic) : BatchDiagnostic :=
  { b with index := n + b.index }

/-- The diagnostics with their places. -/
def inPlaces (ds : List Diagnostic) : List BatchDiagnostic := ds.mapIdx fun i d => ⟨d, i⟩

theorem length_inPlaces (ds : List Diagnostic) : (inPlaces ds).length = ds.length :=
  List.length_mapIdx

theorem getElem?_inPlaces {ds : List Diagnostic} {i : Nat} {d : Diagnostic} (h : ds[i]? = some d) :
    (inPlaces ds)[i]? = some ⟨d, i⟩ := by
  rw [inPlaces, List.getElem?_mapIdx, h, Option.map_some]

/-- Diagnostics behind others are shifted by the number of those. -/
theorem inPlaces_append (ds ds' : List Diagnostic) :
    inPlaces (ds ++ ds') = inPlaces ds ++ (inPlaces ds').map (.shift ds.length) := by
  rw [inPlaces, List.mapIdx_append, ← inPlaces]
  congr 1
  refine List.ext_getElem? fun i => ?_
  rw [List.getElem?_map, inPlaces, List.getElem?_mapIdx, List.getElem?_mapIdx, Option.map_map]
  simp only [Function.comp_def, BatchDiagnostic.shift, Nat.add_comm]

namespace Engine

variable {e : Engine} {c : Submission} {cs cs' before after : List Submission} {i : Nat}
  {ds ds' : List Diagnostic} {o : OverlongNumber}

/-- The submissions have these answers. -/
def Answers (e : Engine) (cs : List Submission) (ds : List Diagnostic) : Prop :=
  List.Forall₂ (fun c d => (e.validate c).value = .ok d) cs ds

theorem exists_answers (h : ∀ c ∈ cs, ∃ d, (e.validate c).value = .ok d) :
    ∃ ds, e.Answers cs ds := by
  obtain ⟨bs, hbs⟩ := exists_validateBatch_eq_ok_iff.2 fun c hc => exists_validate_eq_ok_iff.1 (h c hc)
  obtain ⟨ds, hds, -⟩ := validateFrom_eq_ok_iff.1 (value_validateBatch_eq_ok_iff.1 hbs)
  exact ⟨ds, hds⟩

theorem Answers.getElem? (h : e.Answers cs ds) (hc : cs[i]? = some c) :
    ∃ d, ds[i]? = some d ∧ (e.validate c).value = .ok d := by
  obtain ⟨hi, rfl⟩ := List.getElem?_eq_some_iff.1 hc
  have hi' : i < ds.length := h.length_eq ▸ hi
  exact ⟨ds[i], List.getElem?_eq_getElem hi', h.get hi hi'⟩

/-! ## The events of one submission -/

/-- One submission completes no batch. -/
theorem batchComplete_notMem_validate {n m : Nat} :
    .batchComplete n m ∉ (e.validate c).events := by
  have hlogs := e.logs_validate c
  generalize (e.validate c).value = r, (e.validate c).events = es at hlogs ⊢
  cases hlogs <;> simp

/-! ## The two ends of a batch -/

theorem events_validateFrom (h : e.Answers cs ds) :
    (e.validateFrom i cs).events = cs.flatMap fun c => (e.validate c).events := by
  induction h generalizing i with
  | nil => rfl
  | cons hc _ ih =>
    rw [validateFrom, Traced.events_andThen, hc, List.flatMap_cons, Traced.events_map, ih]

/-- **A batch whose items are answered** gives the answers in their places, and is closed with their
    number and that of the invalid ones. -/
theorem validateBatch_of_answers (h : e.Answers cs ds) :
    e.validateBatch cs = ⟨.ok (inPlaces ds), cs.flatMap (fun c => (e.validate c).events) ++
      [.batchComplete cs.length ((inPlaces ds).countP fun b => !b.isValid)]⟩ := by
  have hv : (e.validateFrom 0 cs).value = .ok (inPlaces ds) :=
    validateFrom_eq_ok_iff.2 ⟨ds, h, by simp only [inPlaces, Nat.zero_add]⟩
  rw [validateBatch, Traced.andThen, events_validateFrom h, hv, h.length_eq, ← length_inPlaces]
  rfl

theorem validateFrom_of_first_error (hb : ∀ b ∈ before, ∃ d, (e.validate b).value = .ok d)
    (hc : (e.validate c).value = .error o) : e.validateFrom i (before ++ c :: after) =
      ⟨.error o, (before ++ [c]).flatMap fun c => (e.validate c).events⟩ := by
  induction before generalizing i with
  | nil =>
    rw [List.nil_append, validateFrom, Traced.andThen, hc]
    simp [Traced.after]
  | cons b before ih =>
    obtain ⟨⟨d, hd⟩, hb⟩ := List.forall_mem_cons.1 hb
    rw [List.cons_append, validateFrom, Traced.andThen, hd]
    show ((e.validateFrom (i + 1) (before ++ c :: after)).map _).after _ = _
    rw [ih hb]
    rfl

/-- **A batch with an item without an answer** ends there, with the events up to this item. -/
theorem validateBatch_of_first_error (hb : ∀ b ∈ before, ∃ d, (e.validate b).value = .ok d)
    (hc : (e.validate c).value = .error o) : e.validateBatch (before ++ c :: after) =
      ⟨.error o, (before ++ [c]).flatMap fun c => (e.validate c).events⟩ := by
  rw [validateBatch, validateFrom_of_first_error hb hc]
  simp [Traced.andThen, Traced.after]

theorem exists_first_error (h : ∃ c ∈ cs, ∃ o, (e.validate c).value = .error o) :
    ∃ before c after o, cs = before ++ c :: after ∧
      (∀ b ∈ before, ∃ d, (e.validate b).value = .ok d) ∧ (e.validate c).value = .error o := by
  induction cs with
  | nil =>
    obtain ⟨c, ⟨⟩, -⟩ := h
  | cons c cs ih =>
    cases hc : (e.validate c).value with
    | error o => exact ⟨[], c, cs, o, rfl, nofun, hc⟩
    | ok d =>
      obtain ⟨c', hc', o, ho⟩ := h
      have hmem : c' ∈ cs := by
        refine (List.mem_cons.1 hc').resolve_left ?_
        rintro rfl
        rw [ho] at hc
        cases hc
      obtain ⟨before, c'', after, o', rfl, hb, ho'⟩ := ih ⟨c', hmem, o, ho⟩
      exact ⟨c :: before, c'', after, o', rfl, List.forall_mem_cons.2 ⟨⟨d, hc⟩, hb⟩, ho'⟩

/-- **A batch is validation item by item.**  If every item is answered, so is the batch, with as many
    answers; each has its place and is the answer for its item, and is read again from what this
    answer is written down as.  The events are those of the items, and one that counts the answers
    and the invalid ones.  The answers for two batches in a row are those for each, the second ones
    shifted.  If an item has no answer, the batch ends at the first one as the item does, and no
    event counts its answers. -/
theorem validateBatch_itemwise (e : Engine) :
    (∀ cs, (∀ c ∈ cs, ∃ d, (e.validate c).value = .ok d) →
      ∃ bs, (e.validateBatch cs).value = .ok bs ∧ bs.length = cs.length ∧
        (∀ i c, cs[i]? = some c → ∃ d, (e.validate c).value = .ok d ∧ bs[i]? = some ⟨d, i⟩ ∧
          ∀ m k, BatchDiagnostic.ofForm (d.placed .snake (.decimal (m : Nat) k) i) = .ok ⟨d, i⟩) ∧
        (e.validateBatch cs).events = cs.flatMap (fun c => (e.validate c).events) ++
          [.batchComplete cs.length (bs.countP fun b => !b.isValid)]) ∧
    (∀ cs cs', (∀ c ∈ cs ++ cs', ∃ d, (e.validate c).value = .ok d) →
      ∃ bs bs', (e.validateBatch cs).value = .ok bs ∧ (e.validateBatch cs').value = .ok bs' ∧
        (e.validateBatch (cs ++ cs')).value = .ok (bs ++ bs'.map (.shift cs.length))) ∧
    ∀ cs, (∃ c ∈ cs, ∃ o, (e.validate c).value = .error o) →
      ∃ before c after o, cs = before ++ c :: after ∧
        (∀ b ∈ before, ∃ d, (e.validate b).value = .ok d) ∧ (e.validate c).value = .error o ∧
        (e.validateBatch cs).value = .error o ∧
        ∀ n m, .batchComplete n m ∉ (e.validateBatch cs).events := by
  refine ⟨fun cs h => ?_, fun cs cs' h => ?_, fun cs h => ?_⟩
  · obtain ⟨ds, hds⟩ := exists_answers h
    rw [validateBatch_of_answers hds]
    refine ⟨inPlaces ds, rfl, ?_, fun i c hc => ?_, rfl⟩
    · rw [length_inPlaces, hds.length_eq]
    · obtain ⟨d, hd, hcd⟩ := hds.getElem? hc
      exact ⟨d, hcd, getElem?_inPlaces hd, fun m k => BatchDiagnostic.ofForm_placed d .snake m k i⟩
  · obtain ⟨hcs, hcs'⟩ := List.forall_mem_append.1 h
    obtain ⟨ds, hds⟩ := exists_answers hcs
    obtain ⟨ds', hds'⟩ := exists_answers hcs'
    have happ : e.Answers (cs ++ cs') (ds ++ ds') := List.rel_append hds hds'
    rw [validateBatch_of_answers hds, validateBatch_of_answers hds', validateBatch_of_answers happ]
    refine ⟨_, _, rfl, rfl, ?_⟩
    rw [inPlaces_append, hds.length_eq]
  · obtain ⟨before, c, after, o, rfl, hb, hc⟩ := exists_first_error h
    rw [validateBatch_of_first_error hb hc]
    refine ⟨before, c, after, o, rfl, hb, hc, rfl, fun n m hm => ?_⟩
    obtain ⟨b, -, hm⟩ := List.mem_flatMap.1 hm
    exact batchComplete_notMem_validate hm

/-- A text, and a value that is none, before an engine that accepts all flowcharts, and before one
    whose validator fails with a reference that is too long. -/
theorem validateBatch_itemwise_pair :
    let e := ofValidators [⟨.flowchart, Validator.acceptAll⟩]
    let e' := ofValidators [⟨.flowchart, Validator.crashAlways
      (String.ofList (referenceWord ++ List.replicate 5000 '1'))⟩]
    let cs := [.text "graph", .notText]
    (∃ d bs, (e.validate (.text "graph")).value = .ok d ∧ (e.validateBatch cs).value = .ok bs ∧
      bs = [⟨d, 0⟩, ⟨.noInput, 1⟩] ∧ (e.validateBatch cs).events =
        (e.validate (.text "graph")).events ++ [.batchComplete 2 (bs.countP fun b => !b.isValid)]) ∧
    (e'.validateBatch cs).value = .error ⟨5000⟩ ∧
      .batchComplete 2 1 ∉ (e'.validateBatch cs).events := by
  intro e e' cs
  have hd : detect (lines "graph") = .flowchart := by decide +kernel
  have hu : detect (lines "graph") ≠ .unknown := by
    rw [hd]
    decide
  constructor
  · have hx : (e.examine .flowchart (lines "graph")).value = .ok .accepted := rfl
    obtain ⟨d, hd', -⟩ := exists_validateLines_of_coherent hx Finding.coherent_accepted
    rw [← hd, ← validate_text_of_ne hu] at hd'
    obtain ⟨bs, hbs, hlen, hplace, hev⟩ := (validateBatch_itemwise e).1 cs
      (List.forall_mem_cons.2 ⟨⟨d, hd'⟩, List.forall_mem_singleton.2 ⟨_, rfl⟩⟩)
    obtain ⟨d₀, hd₀, hb₀, -⟩ := hplace 0 _ rfl
    obtain ⟨d₁, hd₁, hb₁, -⟩ := hplace 1 _ rfl
    obtain rfl := Except.ok.inj (hd₀.symm.trans hd')
    obtain rfl := Except.ok.inj hd₁
    obtain ⟨b, b', rfl⟩ := List.length_eq_two.1 hlen
    cases hb₀
    cases hb₁
    exact ⟨_, _, hd', hbs, rfl, hev⟩
  · have ho : (e'.validate (.text "graph")).value = .error ⟨5000⟩ := by
      refine validate_eq_error_iff.2 ⟨"graph", _, .crashed _, List.replicate 5000 '1', rfl, hu,
        by rw [hd]; rfl, rfl, ?_, List.length_replicate, by decide⟩
      rw [Fault.message, String.toList_ofList, referenceDigits?_replicate]
    -- the long text of the fault is of no use from here on
    clear_value e'
    obtain ⟨before, c, after, o, hcs, hb, hc, ho', hno⟩ :=
      (validateBatch_itemwise e').2.2 cs ⟨_, List.mem_cons_self, _, ho⟩
    refine ⟨?_, hno 2 1⟩
    cases before with
    | nil =>
      injection hcs with hcs
      rw [← hcs, ho] at hc
      rw [ho', Except.error.inj hc]
    | cons b before =>
      injection hcs with hcs
      obtain ⟨d, hd'⟩ := hb b List.mem_cons_self
      rw [← hcs, ho] at hd'
      cases hd'

end Engine

end DiagramLint
