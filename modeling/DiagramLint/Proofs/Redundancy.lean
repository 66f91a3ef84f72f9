/-
  Rules that may be left out.

  The pass asks for the first shape that a line has, and for a marker only if it has no shape.  So a
  rule decides nothing if other rules always come before it.

  * `IsCovered rs r`: one of the rules `rs` accepts whatever the rule `r` accepts;
  * `RuleTable.without t name`: the table without its shapes and markers of a name;
  * `RuleTable.IsDead t name`: no line is what it is by a shape or a marker of that name.

  `scan_eq_of_role_eq`: tables that say the same of every line have the same findings.
  `IsDead.scan_without`: so has a table without rules that decide nothing.
-/
import DiagramLint.Proofs.Scanning

namespace DiagramLint

open Text

/-- One of the rules accepts whatever this rule accepts. -/
def IsCovered (rs : List Rule) (r : Rule) : Prop :=
  ∀ l, r.accepts l = true → ∃ s ∈ rs, s.accepts l = true

variable {l : Line} {name : String} {r s : Rule} {rs before after : List Rule}

/-- The first rule that accepts a line is none that is covered by rules before it. -/
theorem name_ne_of_find? (hn : ∀ s ∈ before ++ after, s.name ≠ name) (hr : IsCovered before r)
    (h : (before ++ r :: after).find? (·.accepts l) = some s) : s.name ≠ name := by
  rw [List.find?_append] at h
  cases hb : before.find? (·.accepts l) with
  | some s' =>
    rw [hb, Option.some_or] at h
    cases h
    exact hn s (List.mem_append_left _ (List.mem_of_find?_eq_some hb))
  | none =>
    have hnr : ¬ r.accepts l = true := by
      intro ha
      obtain ⟨s', hs', ha'⟩ := hr l ha
      exact List.find?_eq_none.1 hb s' hs' ha'
    rw [hb, Option.none_or, List.find?_cons_of_neg (p := fun s : Rule => s.accepts l) hnr] at h
    exact hn s (List.mem_append_right _ (List.mem_of_find?_eq_some h))

/-- Elements that are never found first may be left out. -/
theorem find?_filter_of_find? {p q : Rule → Bool} (h : ∀ r ∈ rs.find? q, p r = true) :
    (rs.filter p).find? q = rs.find? q := by
  induction rs with
  | nil => rfl
  | cons r rs ih =>
    cases hq : q r with
    | true =>
      have hp : p r = true := h r (by rw [List.find?_cons_of_pos hq]; rfl)
      rw [List.filter_cons_of_pos hp, List.find?_cons_of_pos hq, List.find?_cons_of_pos hq]
    | false =>
      have hq' : ¬ q r = true := by simp [hq]
      rw [List.find?_cons_of_neg hq'] at h ⊢
      rw [← ih h, List.filter_cons]
      split
      · rw [List.find?_cons_of_neg hq']
      · rfl

namespace RuleTable

variable {t : RuleTable} {shapes markers : List Rule}

/-! ## Tables that say the same of every line -/

theorem scanFrom_eq_of_role_eq
    (h : ∀ l, { t with shapes := shapes, markers := markers }.role l = t.role l) (n : Nat)
    (seen : Seen) (ls : List Line) :
    { t with shapes := shapes, markers := markers }.scanFrom n seen ls = t.scanFrom n seen ls := by
  induction ls generalizing n seen with
  | nil => rfl
  | cons l ls ih =>
    cases hm : isMeaningful l with
    | false => rw [scanFrom_cons_of_not _ hm, scanFrom_cons_of_not _ hm, ih]
    | true =>
      by_cases hs : t.role (trim l) = .stray
      · rw [scanFrom_cons_of_stray _ hm ((h _).trans hs), scanFrom_cons_of_stray _ hm hs]
        rfl
      · have hs' := hs
        rw [← h] at hs'
        rw [scanFrom_cons_of_ne_stray _ hm hs', scanFrom_cons_of_ne_stray _ hm hs, ih, h]
        rfl

/-- **Tables that differ in their rules only, and say the same of every line, have the same
    findings.** -/
theorem scan_eq_of_role_eq
    (h : ∀ l, { t with shapes := shapes, markers := markers }.role l = t.role l) (ls : List Line) :
    { t with shapes := shapes, markers := markers }.scan ls = t.scan ls :=
  scanFrom_eq_of_role_eq h 1 t.start ls

/-! ## Rules that decide nothing -/

/-- The table without its shapes and markers of the name. -/
def without (t : RuleTable) (name : String) : RuleTable :=
  { t with
    shapes := t.shapes.filter (·.name != name)
    markers := t.markers.filter (·.name != name) }

/-- No line is what it is by a rule of the name: another shape always comes first. -/
structure IsDead (t : RuleTable) (name : String) : Prop where
  shape : ∀ l, ∀ r ∈ t.shapes.find? (·.accepts l), r.name ≠ name
  marker : ∀ r ∈ t.markers, r.name = name → IsCovered t.shapes r

theorem IsDead.role_without (h : t.IsDead name) (l : Line) :
    (t.without name).role l = t.role l := by
  have hshapes : (t.shapes.filter (·.name != name)).find? (·.accepts l) =
      t.shapes.find? (·.accepts l) :=
    find?_filter_of_find? fun r hr => bne_iff_ne.2 (h.shape l r hr)
  unfold role
  rw [without]
  simp only [hshapes]
  split
  · rfl
  cases hf : t.shapes.find? (·.accepts l) with
  | some r => rfl
  | none =>
    have hany : (t.markers.filter (·.name != name)).any (·.accepts l) =
        t.markers.any (·.accepts l) := by
      rw [Bool.eq_iff_iff, List.any_eq_true, List.any_eq_true]
      constructor
      · rintro ⟨r, hr, ha⟩
        exact ⟨r, (List.mem_filter.1 hr).1, ha⟩
      · rintro ⟨r, hr, ha⟩
        refine ⟨r, List.mem_filter.2 ⟨hr, bne_iff_ne.2 fun hn => ?_⟩, ha⟩
        -- what a marker of the name accepts would have a shape
        obtain ⟨s, hs, hsa⟩ := h.marker r hr hn l ha
        exact List.find?_eq_none.1 hf s hs hsa
    rw [hany]

/-- **Rules that decide nothing may be left out.** -/
theorem IsDead.scan_without (h : t.IsDead name) (ls : List Line) :
    (t.without name).scan ls = t.scan ls :=
  scan_eq_of_role_eq h.role_without ls

end RuleTable

end DiagramLint
