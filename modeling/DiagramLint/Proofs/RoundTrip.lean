/-
  Records and their forms.

  A record is written down by the names of its fields and read again from there.  It is the same
  record then, whichever style the names have.

  * `Diagnostic.rules`, `BatchDiagnostic.rules`, `RealtimeDiagnostic.rules`: what is asked of the
    fields, in their order;
  * `FieldRule.Gathers rs form write f c`: several fields are checked as their rules say;
  * `Diagnostic.draft d t`: the fields of the diagnostic `d` that took the time `t`;
  * `Schema α β`: how records are read, with `Schema.read`; each kind of record has its schema.

  `Draft.gathers_ofForm`: the fields of a diagnostic are checked as their rules say.
  `Draft.toDiagnostic_eq_ok_iff`: which fields go together.  `Schema.read_of_values`: a form with the
  values of a record is read as the record.
-/
import Mathlib.Data.List.Forall2
import DiagramLint.Proofs.Fields

namespace DiagramLint

/-! ## The rules of the records -/

/-- What is asked of the fields of a diagnostic. -/
def Diagnostic.rules : List FieldRule :=
  [⟨.isValid, .required, .truth⟩,
   ⟨.error, .nullable, .text⟩,
   ⟨.kind, .nullable, .kind⟩,
   ⟨.line, .nullable, .integer (some 1)⟩,
   ⟨.hint, .nullable, .text⟩,
   ⟨.processingTime, .defaulted (.num (.decimal 0 0)), .duration⟩,
   ⟨.diagramType, .defaulted "unknown", .text⟩,
   ⟨.elementCount, .defaulted (0 : Nat), .integer (some 0)⟩]

/-- What is asked of the fields of a diagnostic of a batch. -/
def BatchDiagnostic.rules : List FieldRule :=
  Diagnostic.rules ++ [⟨.index, .required, .integer (some 0)⟩]

/-- What is asked of the fields of a diagnostic of an edit. -/
def RealtimeDiagnostic.rules : List FieldRule :=
  Diagnostic.rules ++
    [⟨.changeType, .required, .change⟩,
     ⟨.lineNumber, .nullable, .integer none⟩,
     ⟨.realtime, .defaulted true, .truth⟩,
     ⟨.message, .defaulted "", .text⟩]

/-! ## Reading by rules -/

namespace FieldRule

variable {α β γ : Type} {r : FieldRule} {rs : List FieldRule} {form : Json}

/-- The check reports what the rules report, in their order.  It gives `f x` for the parts `x` that
    are written down as the values of the fields. -/
structure Gathers (rs : List FieldRule) (form : Json) (write : γ → List Json) (f : γ → α)
    (c : Checked α) : Prop where
  report_eq : c.report = rs.filterMap (·.report? form)
  eq_ok_iff : ∀ a, c = .ok a ↔ ∃ x, f x = a ∧ rs.map (·.value? form) = (write x).map some

theorem Governs.gathers {write : α → Json} {c : Checked α} (h : r.Governs form write c) :
    Gathers [r] form (fun a => [write a]) id c where
  report_eq := by
    rw [h.report_eq, List.filterMap_eq_flatMap_toList, List.flatMap_singleton]
  eq_ok_iff a := by
    simp [h.eq_ok_iff]

namespace Gathers

variable {write : γ → List Json} {c : Checked α} {f : γ → α}

theorem map (h : Gathers rs form write f c) (g : α → β) :
    Gathers rs form write (fun x => g (f x)) (c.map g) where
  report_eq := by rw [Checked.report_map, h.report_eq]
  eq_ok_iff b := by
    rw [Checked.map_eq_ok_iff]
    constructor
    · rintro ⟨a, ha, rfl⟩
      obtain ⟨x, rfl, hx⟩ := (h.eq_ok_iff a).1 ha
      exact ⟨x, rfl, hx⟩
    · rintro ⟨x, rfl, hx⟩
      exact ⟨f x, (h.eq_ok_iff _).2 ⟨x, rfl, hx⟩, rfl⟩

/-- **One more field** adds its rule at the end. -/
theorem seq {c : Checked (α → β)} {f : γ → α → β} {write' : α → Json} {c' : Checked α}
    (h : Gathers rs form write f c) (h' : r.Governs form write' c') :
    Gathers (rs ++ [r]) form (fun p : γ × α => write p.1 ++ [write' p.2]) (fun p => f p.1 p.2)
      (c.seq c') where
  report_eq := by
    rw [Checked.report_seq, h.report_eq, h'.gathers.report_eq, List.filterMap_append]
  eq_ok_iff b := by
    have hsplit : ∀ p : γ × α,
        (rs ++ [r]).map (·.value? form) = (write p.1 ++ [write' p.2]).map some ↔
          rs.map (·.value? form) = (write p.1).map some ∧ r.value? form = some (write' p.2) := by
      intro p
      rw [List.map_append, List.map_append, List.map_singleton, List.map_singleton,
        List.append_singleton_inj]
    simp only [Checked.seq_eq_ok_iff, h.eq_ok_iff, h'.eq_ok_iff, hsplit]
    constructor
    · rintro ⟨_, a, ⟨x, rfl, hx⟩, ha, rfl⟩
      exact ⟨(x, a), rfl, hx, ha⟩
    · rintro ⟨⟨x, a⟩, rfl, hx, ha⟩
      exact ⟨f x, a, ⟨x, rfl, hx⟩, ha, rfl⟩

/-- The parts may be taken from the result, if they can be told from it. -/
theorem of_inverse (h : Gathers rs form write f c) {write' : α → List Json} (parts : α → γ)
    (hf : ∀ a, f (parts a) = a) (hw : ∀ x, write x = write' (f x)) :
    Gathers rs form write' id c where
  report_eq := h.report_eq
  eq_ok_iff a := by
    rw [h.eq_ok_iff]
    constructor
    · rintro ⟨x, rfl, hx⟩
      exact ⟨f x, rfl, hw x ▸ hx⟩
    · rintro ⟨x, rfl, hx⟩
      exact ⟨parts x, hf x, by rw [hx, hw, hf]⟩

end Gathers

/-- Where the fields have values that the rules admit, the form is admitted. -/
theorem forall_admitted {vs : List Json} (ha : List.Forall₂ Admits rs vs)
    (h : rs.map (·.value? form) = vs.map some) : ∀ r ∈ rs, r.Admitted form := by
  induction ha with
  | nil => exact List.forall_mem_nil _
  | cons hv _ ih =>
    obtain ⟨h, hs⟩ := List.cons_eq_cons.1 h
    refine List.forall_mem_cons.2 ⟨fun name v hg => ?_, ih hs⟩
    rwa [Option.some.inj ((value?_of_given hg).symm.trans h)]

end FieldRule

/-- The values of the fields, in the order of the rules. -/
def Draft.values (d : Draft) : List Json :=
  [.bool d.isValid, .ofText? d.error, .ofKind d.kind, .ofLine? d.line, .ofText? d.hint,
   .num d.processingTime.val, .str d.diagramType, (d.elementCount : Json)]

variable {form : Json}

open FieldRule FieldType

/-- **The fields of a diagnostic are read by their rules.** -/
theorem Draft.gathers_ofForm (h : ∀ r ∈ Diagnostic.rules, r.Admitted form) :
    Gathers Diagnostic.rules form Draft.values id (Draft.ofForm form) := by
  simp only [Diagnostic.rules, List.forall_mem_cons, List.not_mem_nil, false_imp_iff,
    implies_true, and_true] at h
  obtain ⟨h₁, h₂, h₃, h₄, h₅, h₆, h₇, h₈⟩ := h
  have gathers := (decides_truth.required h₁).gathers.map mk
    |>.seq (decides_text.optional h₂)
    |>.seq (decides_kind.optional h₃)
    |>.seq (decides_line.optional h₄)
    |>.seq (decides_text.optional h₅)
    |>.seq (decides_duration.withDefault .zero h₆)
    |>.seq (decides_text.withDefault "unknown" h₇)
    |>.seq (decides_count.withDefault 0 h₈)
  exact gathers.of_inverse (fun d => (((((((d.isValid, d.error), d.kind), d.line), d.hint),
    d.processingTime), d.diagramType), d.elementCount)) (fun _ => rfl) (fun _ => rfl)

/-! ## From fields to diagnostics -/

/-- The fields of a diagnostic that took the time `t`. -/
def Diagnostic.draft (d : Diagnostic) (t : Duration) : Draft where
  isValid := d.isValid
  error := d.error
  kind := d.kind
  line := d.line
  hint := d.hint
  processingTime := t
  diagramType := d.diagramType
  elementCount := d.elementCount

/-- **The fields that go together** are those of a diagnostic. -/
theorem Draft.toDiagnostic_eq_ok_iff {f : Draft} {d : Diagnostic} :
    f.toDiagnostic = .ok d ↔ f = d.draft f.processingTime := by
  constructor
  · intro h
    unfold toDiagnostic at h
    obtain ⟨valid, error, kind, line, hint, time, dialect, count⟩ := f
    cases valid with
    | true =>
      simp only [if_true] at h
      split at h
      · next hn =>
        obtain ⟨rfl, rfl, rfl, rfl⟩ := hn
        cases h
        rfl
      · cases h
    | false =>
      cases error with
      | none => cases h
      | some m =>
        cases h
        rfl
  · intro h
    rw [h]
    obtain ⟨v, dialect, count⟩ := d
    cases v <;> rfl

/-! ## Schemas -/

/-- How a record is read: its fields `β` are gathered, those of a diagnostic among them, and if these
    go together, the record is made of the diagnostic and the other fields. -/
structure Schema (α β : Type) where
  rules : List FieldRule
  fields : Json → Checked β
  /-- The values of the fields, in the order of the rules. -/
  values : β → List Json
  draft : β → Draft
  make : β → Diagnostic → α
  /-- The diagnostic in a record. -/
  base : α → Diagnostic
  /-- The fields of a record that took a time. -/
  parts : α → Duration → β
  rules_subset : Diagnostic.rules ⊆ rules
  admits : ∀ b, List.Forall₂ FieldRule.Admits rules (values b)
  gathers : ∀ {form}, (∀ r ∈ rules, r.Admitted form) → Gathers rules form values id (fields form)
  draft_of_fields : ∀ {form b}, fields form = .ok b → Draft.ofForm form = .ok (draft b)
  draft_parts : ∀ x t, draft (parts x t) = (base x).draft t
  make_parts : ∀ x t, make (parts x t) (base x) = x
  parts_make : ∀ {b d t}, draft b = d.draft t → parts (make b d) t = b

namespace Schema

variable {α β : Type} (sch : Schema α β) {x : α}

/-- The record that a form describes. -/
def read (form : Json) : Checked α :=
  (sch.fields form).andThen fun b => (sch.draft b).toDiagnostic.map (sch.make b)

theorem read_eq_ok_iff : sch.read form = .ok x ↔ ∃ t, sch.fields form = .ok (sch.parts x t) := by
  simp only [read, Checked.andThen_eq_ok_iff, Checked.map_eq_ok_iff, Draft.toDiagnostic_eq_ok_iff]
  constructor
  · rintro ⟨b, hb, d, hd, rfl⟩
    exact ⟨_, by rw [hb, sch.parts_make hd]⟩
  · rintro ⟨t, ht⟩
    exact ⟨_, ht, sch.base x, by rw [sch.draft_parts]; rfl, sch.make_parts x t⟩

/-- **A form that gives the values of a record is read as the record.** -/
theorem read_of_values {t : Duration}
    (h : sch.rules.map (·.value? form) = (sch.values (sch.parts x t)).map some) :
    sch.read form = .ok x ∧ Draft.ofForm form = .ok ((sch.base x).draft t) := by
  have hb : sch.fields form = .ok (sch.parts x t) :=
    ((sch.gathers (forall_admitted (sch.admits _) h)).eq_ok_iff _).2 ⟨_, rfl, h⟩
  exact ⟨sch.read_eq_ok_iff.2 ⟨t, hb⟩, sch.draft_parts x t ▸ sch.draft_of_fields hb⟩

end Schema

/-! ## The schemas of the records -/

theorem Draft.admits_values (f : Draft) :
    List.Forall₂ FieldRule.Admits Diagnostic.rules f.values :=
  .cons (.inl (.truth _)) <|
  .cons (decides_text.admits_ofOption _ _) <|
  .cons (decides_kind.admits_ofOption _ _) <|
  .cons (decides_line.admits_ofOption _ _) <|
  .cons (decides_text.admits_ofOption _ _) <|
  .cons (.inl (decides_duration.fits _)) <|
  .cons (.inl (.text _)) <|
  .cons (.inl (decides_count.fits _)) .nil

/-- How a diagnostic is read. -/
def Diagnostic.schema : Schema Diagnostic Draft where
  rules := Diagnostic.rules
  fields := Draft.ofForm
  values := Draft.values
  draft f := f
  make _ d := d
  base d := d
  parts := Diagnostic.draft
  rules_subset := List.Subset.refl _
  admits := Draft.admits_values
  gathers := Draft.gathers_ofForm
  draft_of_fields h := h
  draft_parts _ _ := rfl
  make_parts _ _ := rfl
  parts_make h := h.symm

/-- How a diagnostic of a batch is read. -/
def BatchDiagnostic.schema : Schema BatchDiagnostic (Draft × Nat) where
  rules := BatchDiagnostic.rules
  fields := BatchDiagnostic.fields
  values b := b.1.values ++ [(b.2 : Json)]
  draft b := b.1
  make b d := ⟨d, b.2⟩
  base x := x.toDiagnostic
  parts x t := (x.draft t, x.index)
  rules_subset := List.subset_append_left _ _
  admits b := List.rel_append b.1.admits_values (.cons (.inl (decides_count.fits _)) .nil)
  gathers h := by
    obtain ⟨hd, hi⟩ := List.forall_mem_append.1 h
    have gathers := ((Draft.gathers_ofForm hd).map Prod.mk).seq
      (decides_count.required (hi _ (List.mem_singleton.2 rfl)))
    exact gathers.of_inverse (fun b => b) (fun _ => rfl) (fun _ => rfl)
  draft_of_fields h := by
    obtain ⟨f, i, hf, -, rfl⟩ := Checked.map_seq_eq_ok_iff.1 h
    exact hf
  draft_parts _ _ := rfl
  make_parts _ _ := rfl
  parts_make h := by rw [← h]

/-- How a diagnostic of an edit is read. -/
def RealtimeDiagnostic.schema :
    Schema RealtimeDiagnostic (Draft × ChangeType × Option Int × Bool × String) where
  rules := RealtimeDiagnostic.rules
  fields := RealtimeDiagnostic.fields
  values b := b.1.values ++ [.str b.2.1.name, .ofInt? b.2.2.1, .bool b.2.2.2.1, .str b.2.2.2.2]
  draft b := b.1
  make b d := ⟨d, b.2.1, b.2.2.1, b.2.2.2.1, b.2.2.2.2⟩
  base x := x.toDiagnostic
  parts x t := (x.draft t, x.change, x.lineNumber, x.realtime, x.message)
  rules_subset := List.subset_append_left _ _
  admits b := List.rel_append b.1.admits_values <|
    .cons (.inl (.change _)) <|
    .cons (decides_integer.admits_ofOption _ _) <|
    .cons (.inl (.truth _)) <|
    .cons (.inl (.text _)) .nil
  gathers h := by
    obtain ⟨hd, hi⟩ := List.forall_mem_append.1 h
    simp only [List.forall_mem_cons, List.not_mem_nil, false_imp_iff, implies_true, and_true] at hi
    obtain ⟨h₁, h₂, h₃, h₄⟩ := hi
    have gathers := (Draft.gathers_ofForm hd).map
        (fun draft change line realtime message => (draft, change, line, realtime, message))
      |>.seq (decides_change.required h₁)
      |>.seq (decides_integer.optional h₂)
      |>.seq (decides_truth.withDefault true h₃)
      |>.seq (decides_text.withDefault "" h₄)
    exact gathers.of_inverse (fun b => ((((b.1, b.2.1), b.2.2.1), b.2.2.2.1), b.2.2.2.2))
      (fun _ => rfl) (fun _ => by simp only [List.append_assoc]; rfl)
  draft_of_fields h := by
    obtain ⟨_, _, h₃, -, rfl⟩ := Checked.seq_eq_ok_iff.1 h
    obtain ⟨_, _, h₂, -, rfl⟩ := Checked.seq_eq_ok_iff.1 h₃
    obtain ⟨_, _, h₁, -, rfl⟩ := Checked.seq_eq_ok_iff.1 h₂
    obtain ⟨f, _, hf, -, rfl⟩ := Checked.map_seq_eq_ok_iff.1 h₁
    exact hf
  draft_parts _ _ := rfl
  make_parts _ _ := rfl
  parts_make h := by rw [← h]

theorem Diagnostic.read_schema : schema.read = ofForm := by
  funext form
  rw [Schema.read, ofForm]
  congr 1
  funext f
  exact Checked.map_id _

theorem BatchDiagnostic.read_schema : schema.read = ofForm := rfl

/-! ## Diagnostics of a batch -/

/-- What a diagnostic is written down as for a batch: its members, the time that it took and its
    place. -/
def Diagnostic.placed (d : Diagnostic) (s : NameStyle) (time : JsonNumber) (index : Nat) : Json :=
  .obj (d.members s ++
    [(FieldName.processingTime.styled s, .num time), (FieldName.index.styled s, (index : Json))])

/-- **A diagnostic with its place is read as it was written**, in either style, whatever time it
    took. -/
theorem BatchDiagnostic.ofForm_placed_val (d : Diagnostic) (s : NameStyle) (t : Duration)
    (i : Nat) : BatchDiagnostic.ofForm (d.placed s t.val i) = .ok ⟨d, i⟩ := by
  rw [← read_schema]
  refine (schema.read_of_values (x := ⟨d, i⟩) (t := t) ?_).1
  cases s <;> rfl

/-- The same for a time that is written as a decimal number. -/
theorem BatchDiagnostic.ofForm_placed (d : Diagnostic) (s : NameStyle) (m : Nat) (e : Int)
    (i : Nat) : BatchDiagnostic.ofForm (d.placed s (.decimal m e) i) = .ok ⟨d, i⟩ := by
  have hm : JsonNumber.isNonneg (.decimal m e) = true := by
    rw [JsonNumber.isNonneg, decide_eq_true (Int.natCast_nonneg m), Bool.true_or]
  exact ofForm_placed_val d s ⟨.decimal m e, hm⟩ i

end DiagramLint
