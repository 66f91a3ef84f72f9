/-
  Which forms describe records.

  A form describes a record just if its fields keep to their rules, and the fields of the error go
  together with validity.  Otherwise each field that fails is reported, or else the clash.

  * `Clashes form p`: the fields of the error do not go together with validity, as `p` says;
  * `timed ms s t rest`: the members `ms` with a time, and with more members behind;
  * `KeepsTo rules read members`: the records that `read` gives, what it reports, and how it reads
    what `members` writes.

  `Draft.clashes_iff`: fields clash if no diagnostic is made of them.
  `Schema.keepsTo`: what is read by a schema keeps to its rules.
-/
import DiagramLint.Proofs.RoundTrip

namespace DiagramLint

/-! ## Fields that go together -/

/-- The field is given, and not as null. -/
def FieldName.IsSet (n : FieldName) (form : Json) : Prop :=
  ∃ v, n.value? form = some v ∧ v ≠ .null

/-- The fields of the error do not go together with validity: a valid diagnostic has one of them, or
    an invalid one has no message. -/
inductive Clashes (form : Json) : FieldProblem → Prop
  | valid {n : FieldName} (hv : FieldName.isValid.value? form = some (.bool true))
      (hn : n ∈ [FieldName.error, .kind, .line, .hint]) (hs : n.IsSet form) :
      Clashes form .validWithError
  | invalid (hv : FieldName.isValid.value? form = some (.bool false))
      (hs : ¬ FieldName.error.IsSet form) : Clashes form .invalidWithoutError

section

variable {α : Type} {form : Json} {p : FieldProblem}

/-- A field that may be null is set just if it has a value. -/
theorem FieldType.Decides.isSet_iff {n : FieldName} {type : FieldType}
    {check : List String → Json → Checked α} {write : α → Json} (hc : type.Decides check write)
    {o : Option α} (h : FieldRule.value? ⟨n, .nullable, type⟩ form = some (.ofOption write o)) :
    n.IsSet form ↔ o ≠ none := by
  have hw : ∀ a, write a ≠ .null := fun a => (hc.fits a).ne_null
  rw [FieldRule.value?] at h
  cases hn : n.value? form with
  | none =>
    rw [hn] at h
    cases o with
    | none => simp [FieldName.IsSet, hn]
    | some a => exact absurd (Option.some.inj h).symm (hw a)
  | some v =>
    rw [hn] at h
    obtain rfl : v = .ofOption write o := Option.some.inj h
    cases o with
    | none => simp [FieldName.IsSet, hn, Json.ofOption]
    | some a => simp [FieldName.IsSet, hn, Json.ofOption, hw]

open FieldType in
/-- **Fields clash** just if no diagnostic is made of them. -/
theorem Draft.clashes_iff {f : Draft} (ha : ∀ r ∈ Diagnostic.rules, r.Admitted form)
    (h : Draft.ofForm form = .ok f) : Clashes form p ↔ f.toDiagnostic = .fail [] p := by
  obtain ⟨f, rfl, hvalues⟩ := ((gathers_ofForm ha).eq_ok_iff _).1 h
  simp only [Diagnostic.rules, values, List.map_cons, List.map_nil, List.cons.injEq, and_true]
    at hvalues
  obtain ⟨hvalid, herror, hkind, hline, hhint, -⟩ := hvalues
  have hv : FieldName.isValid.value? form = some (.bool f.isValid) := by
    rwa [FieldRule.value?, Presence.default?, Option.or_none] at hvalid
  have hset : (∃ n ∈ [FieldName.error, .kind, .line, .hint], n.IsSet form) ↔
      ¬ (f.error = none ∧ f.kind = none ∧ f.line = none ∧ f.hint = none) := by
    simp only [List.exists_mem_cons_iff, List.not_mem_nil, false_and, exists_false, or_false,
      decides_text.isSet_iff herror, decides_kind.isSet_iff hkind, decides_line.isSet_iff hline,
      decides_text.isSet_iff hhint, ne_eq, not_and_or]
  show _ ↔ f.toDiagnostic = _
  unfold toDiagnostic
  constructor
  · rintro (⟨hvalid, hn, hs⟩ | ⟨hvalid, hs⟩)
    · obtain hval : f.isValid = true := by simpa [hv] using hvalid
      rw [if_pos hval, if_neg (hset.1 ⟨_, hn, hs⟩)]
    · obtain hval : f.isValid = false := by simpa [hv] using hvalid
      rw [decides_text.isSet_iff herror, not_not] at hs
      rw [hval, hs]
      rfl
  · intro h
    split at h
    · next hval =>
      split at h
      · cases h
      · next hn =>
        cases h
        obtain ⟨n, hn, hs⟩ := hset.2 hn
        exact .valid (hval ▸ hv) hn hs
    · next hval =>
      split at h
      · next hm =>
        cases h
        refine .invalid (eq_false_of_ne_true hval ▸ hv) ?_
        rw [decides_text.isSet_iff herror, hm, not_not]
      · cases h

theorem Draft.toDiagnostic_cases (f : Draft) :
    (∃ d, f.toDiagnostic = .ok d) ∨ ∃ p, f.toDiagnostic = .fail [] p := by
  unfold toDiagnostic
  split
  · split
    · exact .inl ⟨_, rfl⟩
    · exact .inr ⟨_, rfl⟩
  · split
    · exact .inr ⟨_, rfl⟩
    · exact .inl ⟨_, rfl⟩

end

/-! ## What a schema reads -/

namespace Schema

variable {α β : Type} (sch : Schema α β) {x : α} {form form' : Json} {p : FieldProblem}

theorem filterMap_ne_nil {γ δ : Type} {f : γ → Option δ} {cs : List γ} (h : ∃ c ∈ cs, f c ≠ none) :
    cs.filterMap f ≠ [] := by
  obtain ⟨c, hc, hf⟩ := h
  exact fun hnil => hf (List.filterMap_eq_nil_iff.1 hnil c hc)

/-- A form without reports gives all fields. -/
theorem exists_fields (ha : ∀ r ∈ sch.rules, r.Admitted form)
    (h : ∀ r ∈ sch.rules, r.report? form = none) : ∃ b, sch.fields form = .ok b := by
  refine Checked.exists_eq_ok_of_report_eq_nil ?_
  rw [(sch.gathers ha).report_eq, List.filterMap_eq_nil_iff]
  exact h

/-- **Fields that fail** are reported, each of them once. -/
theorem report_read_of_reported (ha : ∀ r ∈ sch.rules, r.Admitted form)
    (h : ∃ r ∈ sch.rules, r.report? form ≠ none) :
    (sch.read form).report = sch.rules.filterMap (·.report? form) := by
  have hne : (sch.fields form).report ≠ [] := by
    rw [(sch.gathers ha).report_eq]
    exact filterMap_ne_nil h
  rw [read, Checked.report_andThen_of_failed hne, (sch.gathers ha).report_eq]

/-- **Fields that clash** are reported as a whole. -/
theorem report_read_of_clashes (ha : ∀ r ∈ sch.rules, r.Admitted form)
    (h : ∀ r ∈ sch.rules, r.report? form = none) (hc : Clashes form p) :
    (sch.read form).report = [([], p)] := by
  obtain ⟨b, hb⟩ := sch.exists_fields ha h
  have hd := (Draft.clashes_iff (fun r hr => ha r (sch.rules_subset hr)) (sch.draft_of_fields hb)).1 hc
  rw [read, hb]
  show ((sch.draft b).toDiagnostic.map (sch.make b)).report = _
  rw [hd]
  rfl

/-- **A form is read** just if nothing is reported and nothing clashes. -/
theorem exists_read_iff (ha : ∀ r ∈ sch.rules, r.Admitted form) : (∃ x, sch.read form = .ok x) ↔
    (∀ r ∈ sch.rules, r.report? form = none) ∧ ∀ p, ¬ Clashes form p := by
  constructor
  · rintro ⟨x, hx⟩
    obtain ⟨t, ht⟩ := sch.read_eq_ok_iff.1 hx
    have hnone : ∀ r ∈ sch.rules, r.report? form = none := by
      rw [← List.filterMap_eq_nil_iff, ← (sch.gathers ha).report_eq, ht]
      rfl
    refine ⟨hnone, fun p hp => ?_⟩
    have hr := sch.report_read_of_clashes ha hnone hp
    rw [hx] at hr
    cases hr
  · rintro ⟨hnone, hc⟩
    obtain ⟨b, hb⟩ := sch.exists_fields ha hnone
    rw [read, hb]
    obtain ⟨d, hd⟩ | ⟨p, hp⟩ := (sch.draft b).toDiagnostic_cases
    · exact ⟨sch.make b d, by rw [Checked.andThen, hd]; rfl⟩
    · exact absurd ((Draft.clashes_iff (fun r hr => ha r (sch.rules_subset hr))
        (sch.draft_of_fields hb)).2 hp) (hc p)

/-- **What is read** has the values that the form gives to its fields. -/
theorem read_eq_ok_iff_values (ha : ∀ r ∈ sch.rules, r.Admitted form) : sch.read form = .ok x ↔
    ∃ t, sch.rules.map (·.value? form) = (sch.values (sch.parts x t)).map some := by
  simp only [sch.read_eq_ok_iff, (sch.gathers ha).eq_ok_iff, id_eq, exists_eq_left]

/-- **Only the fields count.** -/
theorem read_congr (ha : ∀ r ∈ sch.rules, r.Admitted form)
    (h : ∀ r ∈ sch.rules, r.name.given? form' = r.name.given? form) :
    (sch.read form').value? = (sch.read form).value? ∧
      (sch.read form').report = (sch.read form).report := by
  have ha' : ∀ r ∈ sch.rules, r.Admitted form' := by
    intro r hr name v hg
    exact ha r hr name v (h r hr ▸ hg)
  have hreport : ∀ r ∈ sch.rules, r.report? form' = r.report? form := by
    intro r hr
    rw [FieldRule.report?, FieldRule.report?, h r hr]
  have hvalue : sch.rules.map (·.value? form') = sch.rules.map (·.value? form) := by
    refine List.map_congr_left fun r hr => ?_
    rw [FieldRule.value?, FieldRule.value?, FieldName.value?, FieldName.value?, h r hr]
  by_cases hnone : ∀ r ∈ sch.rules, r.report? form = none
  · obtain ⟨b, hb⟩ := sch.exists_fields ha hnone
    have hb' : sch.fields form' = .ok b := by
      rw [(sch.gathers ha').eq_ok_iff, hvalue, ← (sch.gathers ha).eq_ok_iff, hb]
    rw [read, read, hb, hb']
    exact ⟨rfl, rfl⟩
  · have hsome : ∃ r ∈ sch.rules, r.report? form ≠ none := by
      simpa only [not_forall, exists_prop] using hnone
    have hsome' : ∃ r ∈ sch.rules, r.report? form' ≠ none := by
      obtain ⟨r, hr, hne⟩ := hsome
      exact ⟨r, hr, hreport r hr ▸ hne⟩
    have heq : (sch.read form').report = (sch.read form).report := by
      rw [sch.report_read_of_reported ha hsome, sch.report_read_of_reported ha' hsome',
        List.filterMap_congr hreport]
    have hne : (sch.read form).report ≠ [] := by
      rw [sch.report_read_of_reported ha hsome]
      exact filterMap_ne_nil hsome
    exact ⟨by rw [Checked.value?_eq_none_iff.2 hne, Checked.value?_eq_none_iff.2 (heq ▸ hne)], heq⟩

end Schema

/-! ## Written records -/

namespace FieldName

/-- The field is not among the members. -/
def Absent (n : FieldName) (ms : List (String × Json)) : Prop :=
  Json.lookup n.camel ms = none ∧ Json.lookup n.snake ms = none

theorem given?_eq (n : FieldName) (form : Json) : n.given? form =
    ((form.member? n.camel).map (n.camel, ·)).or ((form.member? n.snake).map (n.snake, ·)) := by
  rw [given?]
  cases form.member? n.camel <;> rfl

theorem given?_append_of_absent {n : FieldName} {rest : List (String × Json)}
    (ms : List (String × Json)) (h : n.Absent rest) :
    n.given? (.obj (ms ++ rest)) = n.given? (.obj ms) := by
  simp only [given?, Json.member?, Json.lookup_append, h.1, h.2, Option.none_or]

end FieldName

/-- Members with the time that something took, and with more members behind. -/
def timed (ms : List (String × Json)) (s : NameStyle) (t : Duration)
    (rest : List (String × Json)) : Json :=
  .obj (ms ++ (FieldName.processingTime.styled s, .num t.val) :: rest)

theorem given?_timed_of_absent {n : FieldName} {rest : List (String × Json)} (h : n.Absent rest)
    (ms : List (String × Json)) (s : NameStyle) (t : Duration) :
    n.given? (timed ms s t rest) = n.given? (timed ms s t []) := by
  rw [timed, timed, List.append_cons]
  exact FieldName.given?_append_of_absent _ h

/-! ## Readers and their rules -/

/-- What `read` makes of a form whose fields have values of the right types, by the rules of the
    fields, and of what `members` writes. -/
structure KeepsTo {α : Type} (rules : List FieldRule) (read : Json → Checked α)
    (members : NameStyle → α → List (String × Json)) : Prop where
  /-- A field is given by its name in camel case, and by the other one only where that is absent,
      whatever the values are. -/
  counts : ∀ form, ∀ r ∈ rules, r.name.given? form =
    ((form.member? r.name.camel).map (r.name.camel, ·)).or
      ((form.member? r.name.snake).map (r.name.snake, ·))
  /-- A record is read just if no field is reported and no fields clash. -/
  accepts : ∀ form, (∀ r ∈ rules, r.Admitted form) → ((∃ x, read form = .ok x) ↔
    (∀ r ∈ rules, r.report? form = none) ∧ ∀ p, ¬ Clashes form p)
  /-- Every field that fails is reported once, in the order of the rules. -/
  reports : ∀ form, (∀ r ∈ rules, r.Admitted form) → (∃ r ∈ rules, r.report? form ≠ none) →
    (read form).report = rules.filterMap (·.report? form)
  /-- A clash is reported if no field fails, and without naming one. -/
  clashes : ∀ form p, (∀ r ∈ rules, r.Admitted form) → (∀ r ∈ rules, r.report? form = none) →
    Clashes form p → (read form).report = [([], p)]
  /-- What is read has the values that the form gives to the fields, or those by default. -/
  carries : ∀ form x s, (∀ r ∈ rules, r.Admitted form) → (read form = .ok x ↔
    ∃ t, ∀ r ∈ rules, r.value? form = r.value? (timed (members s x) s t []))
  /-- Nothing but the fields counts. -/
  ignores : ∀ form form', (∀ r ∈ rules, r.Admitted form) →
    (∀ r ∈ rules, r.name.given? form' = r.name.given? form) →
    (read form').value? = (read form).value? ∧ (read form').report = (read form).report
  /-- What is written of a record is read as the record, in either style, with the time that it took,
      whatever stands behind it. -/
  rebuilds : ∀ x s t rest, (∀ r ∈ rules, r.name.Absent rest) →
    read (timed (members s x) s t rest) = .ok x ∧
      (Draft.ofForm (timed (members s x) s t rest)).map (·.processingTime) = .ok t

theorem Schema.keepsTo {α β : Type} (sch : Schema α β)
    {members : NameStyle → α → List (String × Json)}
    (hm : ∀ x s t, sch.rules.map (·.value? (timed (members s x) s t [])) =
      (sch.values (sch.parts x t)).map some) : KeepsTo sch.rules sch.read members where
  counts form r _ := r.name.given?_eq form
  accepts _ ha := sch.exists_read_iff ha
  reports _ ha h := sch.report_read_of_reported ha h
  clashes _ _ ha h hc := sch.report_read_of_clashes ha h hc
  carries form x s ha := by
    simp only [sch.read_eq_ok_iff_values ha, ← hm x s, List.map_inj_left]
  ignores _ _ ha h := sch.read_congr ha h
  rebuilds x s t rest h := by
    have hvalues : sch.rules.map (·.value? (timed (members s x) s t rest)) =
        (sch.values (sch.parts x t)).map some := by
      rw [← hm x s]
      refine List.map_congr_left fun r hr => ?_
      rw [FieldRule.value?, FieldRule.value?, FieldName.value?, FieldName.value?,
        given?_timed_of_absent (h r hr)]
    obtain ⟨hread, hdraft⟩ := sch.read_of_values hvalues
    exact ⟨hread, by rw [hdraft]; rfl⟩

/-- **Forms describe records by the rules of their fields.**  A form whose fields have values of the
    right types is read just if every required field is given, every value passes its check, and the
    fields of the error go together with validity.  What it is reported for otherwise is one problem
    for each field that fails, in their order, where the field was given, or else the clash.  Other
    members do not count.  Every record is read from what it is written down as, in either style; and
    a diagnostic with a place, or with an edit, is read as one of a batch, or of the edit. -/
theorem records_keep_to_rules :
    KeepsTo Diagnostic.rules Diagnostic.ofForm Diagnostic.members ∧
    KeepsTo BatchDiagnostic.rules BatchDiagnostic.ofForm BatchDiagnostic.members ∧
    KeepsTo RealtimeDiagnostic.rules RealtimeDiagnostic.ofForm RealtimeDiagnostic.members ∧
    ∀ (d : Diagnostic) (s : NameStyle) (t : Duration),
      (∀ i : Nat, BatchDiagnostic.ofForm
        (timed (d.members s) s t [(FieldName.index.styled s, (i : Json))]) = .ok ⟨d, i⟩) ∧
      ∀ (c : ChangeType) (line : Option Int) (m : String), RealtimeDiagnostic.ofForm
        (timed (d.members s) s t
          [(FieldName.changeType.styled s, .str c.name),
           (FieldName.lineNumber.styled s, .ofInt? line),
           (FieldName.message.styled s, .str m)]) = .ok ⟨d, c, line, true, m⟩ := by
  refine ⟨?_, ?_, ?_, fun d s t => ⟨fun i => ?_, fun c line m => ?_⟩⟩
  · rw [← Diagnostic.read_schema]
    exact Diagnostic.schema.keepsTo fun x s t => by cases s <;> rfl
  · exact BatchDiagnostic.schema.keepsTo fun x s t => by cases s <;> rfl
  · exact RealtimeDiagnostic.schema.keepsTo fun x s t => by cases s <;> rfl
  · exact BatchDiagnostic.ofForm_placed_val d s t i
  · refine (RealtimeDiagnostic.schema.read_of_values (x := ⟨d, c, line, true, m⟩) (t := t) ?_).1
    cases s <;> rfl

/-- A form with bad fields, one of them beside a good value under its other name; one whose fields
    clash; one that is read; and one that a record is written down as. -/
theorem records_keep_to_rules_samples :
    let bad : Json := .obj [("is_valid", true), ("type", "typo"), ("line", (0 : Int)),
      ("element_count", (3 : Int)), ("elementCount", (-1 : Int)), ("color", .null)]
    let clash : Json := .obj [("isValid", true), ("error", "")]
    let good : Json := .obj [("is_valid", false), ("error", ""), ("type", .null)]
    let b : BatchDiagnostic := ⟨⟨.rejected ⟨"m", some .parse, none, none⟩, "pie", 2⟩, 4⟩
    (BatchDiagnostic.ofForm bad).report = [(["type"], .notAKind), (["line"], .belowLeast 1),
      (["elementCount"], .belowLeast 0), (["index"], .missing)] ∧
    (Diagnostic.ofForm clash).report = [([], .validWithError)] ∧
    (∃ d, Diagnostic.ofForm good = .ok d) ∧
    BatchDiagnostic.ofForm (timed (b.members .snake) .snake .zero [("timestamp", "now")]) =
      .ok b := by
  intro bad clash good b
  obtain ⟨hd, hb, -⟩ := records_keep_to_rules
  have hbad : ∀ r ∈ BatchDiagnostic.rules, r.Admitted bad := by
    simp only [BatchDiagnostic.rules, Diagnostic.rules, List.cons_append, List.nil_append,
      List.forall_mem_cons]
    exact ⟨.of_given rfl (.inl (.truth _)), .of_not_given rfl, .of_given rfl (.inl (.kind _)),
      .of_given rfl (.inl (.integer _ _)), .of_not_given rfl, .of_not_given rfl, .of_not_given rfl,
      .of_given rfl (.inl (.integer _ _)), .of_not_given rfl, List.forall_mem_nil _⟩
  have hclash : ∀ r ∈ Diagnostic.rules, r.Admitted clash := by
    simp only [Diagnostic.rules, List.forall_mem_cons]
    exact ⟨.of_given rfl (.inl (.truth _)), .of_given rfl (.inl (.text _)), .of_not_given rfl,
      .of_not_given rfl, .of_not_given rfl, .of_not_given rfl, .of_not_given rfl,
      .of_not_given rfl, List.forall_mem_nil _⟩
  have hgood : ∀ r ∈ Diagnostic.rules, r.Admitted good := by
    simp only [Diagnostic.rules, List.forall_mem_cons]
    exact ⟨.of_given rfl (.inl (.truth _)), .of_given rfl (.inl (.text _)),
      .of_given rfl (.inr ⟨rfl, rfl⟩), .of_not_given rfl, .of_not_given rfl, .of_not_given rfl,
      .of_not_given rfl, .of_not_given rfl, List.forall_mem_nil _⟩
  refine ⟨?_, ?_, ?_, ?_⟩
  · refine (hb.reports bad hbad ⟨⟨.index, .required, .integer (some 0)⟩, ?_, ?_⟩).trans rfl
    · exact List.mem_append_right _ List.mem_cons_self
    · exact Option.some_ne_none _
  · refine hd.clashes clash _ hclash ?_ (.valid rfl List.mem_cons_self ⟨_, rfl, nofun⟩)
    rw [← List.filterMap_eq_nil_iff]
    rfl
  · refine (hd.accepts good hgood).2 ⟨?_, ?_⟩
    · rw [← List.filterMap_eq_nil_iff]
      rfl
    · rintro p (⟨hv, -, -⟩ | ⟨-, hs⟩)
      · cases hv
      · exact hs ⟨_, rfl, nofun⟩
  · refine (hb.rebuilds b .snake .zero _ ?_).1
    simp only [BatchDiagnostic.rules, Diagnostic.rules, List.cons_append, List.nil_append,
      List.forall_mem_cons]
    exact ⟨⟨rfl, rfl⟩, ⟨rfl, rfl⟩, ⟨rfl, rfl⟩, ⟨rfl, rfl⟩, ⟨rfl, rfl⟩, ⟨rfl, rfl⟩, ⟨rfl, rfl⟩,
      ⟨rfl, rfl⟩, ⟨rfl, rfl⟩, List.forall_mem_nil _⟩

end DiagramLint
