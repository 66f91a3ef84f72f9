/-
  The order of the rules.

  The rules of a table may overlap, and of several shapes that a line has only the first one counts.
  This matters for one thing alone: whether the required shape was seen.

  * `RuleTable.Reorders u t`: the tables `u` and `t` differ in the order of their rules only;
  * `RuleTable.Separates t name ls`: no line that counts has both a shape of the name and a shape of
    another name.

  `Reorders.scan_cases`: of two such tables one may accept where the other one misses the required
  shape, and nothing else.  `Reorders.scan_eq`: not even this happens where the required shape is
  separate from the others.
-/
import DiagramLint.Proofs.Findings

namespace DiagramLint

open Text

namespace RuleTable

/-- The tables differ in the order of their shapes and in that of their markers only. -/
structure Reorders (u t : RuleTable) : Prop where
  shapes : u.shapes.Perm t.shapes
  markers : u.markers.Perm t.markers
  others : u = { t with shapes := u.shapes, markers := u.markers }

/-- No line that counts and has a shape of the name has a shape of another name as well. -/
def Separates (t : RuleTable) (name : String) (ls : List Line) : Prop :=
  ∀ l ∈ meaningful ls, ∀ r ∈ t.shapes, r.accepts l = true → r.name = name →
    ∀ s ∈ t.shapes, s.accepts l = true → s.name = name

variable {t u : RuleTable} {l : Line} {ls : List Line} {name : String}

/-! ## The first shape of a line -/

/-- Where the shapes of a name are separate from the others, a line that is no declaration supplies
    the name as soon as any of them accepts it. -/
theorem Separates.supplies_iff (h : t.Separates name ls) (hl : l ∈ meaningful ls) :
    t.Supplies name l ↔ t.declaration.accepts l = false ∧
      ∃ r ∈ t.shapes, r.accepts l = true ∧ r.name = name := by
  constructor
  · rintro ⟨hd, before, r, after, he, -, ha, hn⟩
    exact ⟨hd, r, by simp [he], ha, hn⟩
  · rintro ⟨hd, r, hr, ha, hn⟩
    -- some shape of the line comes first, and it cannot have another name
    obtain ⟨s, hs⟩ : ∃ s, t.shapes.find? (·.accepts l) = some s :=
      Option.isSome_iff_exists.1 (List.find?_isSome.2 ⟨r, hr, ha⟩)
    obtain ⟨hsa, before, after, he, hb⟩ := List.find?_eq_some_iff_append.1 hs
    have hsn : s.name = name := h l hl r hr ha hn s (List.mem_of_find?_eq_some hs) hsa
    exact ⟨hd, before, s, after, he, by simpa using hb, hsa, hsn⟩

theorem separates_of_forall_name_eq (h : ∀ s ∈ t.shapes, s.name = name) (ls : List Line) :
    t.Separates name ls := by
  intro l _ r _ _ _ s hs _
  exact h s hs

/-! ## What does not depend on the order -/

namespace Reorders

theorem declaration_eq (h : u.Reorders t) : u.declaration = t.declaration := by
  rw [h.others]

theorem required_eq (h : u.Reorders t) : u.required = t.required := by
  rw [h.others]

theorem strayLine_eq (h : u.Reorders t) (n : Nat) : u.strayLine n l = t.strayLine n l := by
  rw [h.others]
  rfl

theorem conclude_eq (h : u.Reorders t) (s : Seen) : u.conclude s = t.conclude s := by
  rw [h.others]
  rfl

theorem separates (h : u.Reorders t) (ht : t.Separates name ls) : u.Separates name ls := by
  intro l hl r hr ha hn s hs hsa
  exact ht l hl r (h.shapes.mem_iff.1 hr) ha hn s (h.shapes.mem_iff.1 hs) hsa

theorem isStray_eq (h : u.Reorders t) (l : Line) : u.isStray l = t.isStray l := by
  have hrules : u.rules.Perm t.rules := by
    rw [rules, rules, h.declaration_eq]
    exact (h.shapes.append h.markers).cons t.declaration
  rw [Bool.eq_iff_iff, isStray_iff, isStray_iff]
  simp only [hrules.mem_iff]

theorem declaration_seen_eq (h : u.Reorders t) :
    (u.seen ls).declaration = (t.seen ls).declaration := by
  rw [seen, seen, h.declaration_eq]

/-- Where the required shape is separate from the others, the order does not hide it. -/
theorem required_seen_eq (h : u.Reorders t)
    (hs : ∀ name, t.required = some name → t.Separates name ls) :
    (u.seen ls).required = (t.seen ls).required := by
  rw [Bool.eq_iff_iff, required_seen_iff_supplies, required_seen_iff_supplies, h.required_eq]
  refine forall₂_congr fun name hname => exists_congr fun l => and_congr_right fun hl => ?_
  have ht : t.Separates name ls := hs name hname
  rw [(h.separates ht).supplies_iff hl, ht.supplies_iff hl, h.declaration_eq]
  simp only [h.shapes.mem_iff]

/-! ## The findings -/

theorem forall_isStray_eq_false_iff (h : u.Reorders t) :
    (∀ l ∈ ls, u.isStray l = false) ↔ ∀ l ∈ ls, t.isStray l = false := by
  simp only [h.isStray_eq]

/-- A stray line is reported alike. -/
theorem scan_eq_of_stray (h : u.Reorders t) (hn : ¬ ∀ l ∈ ls, t.isStray l = false) :
    u.scan ls = t.scan ls := by
  rcases t.no_stray_or_first_stray ls with hn' | ⟨before, l, after, rfl, hb, hl⟩
  · exact absurd hn' hn
  · have hb' : ∀ m ∈ before, u.isStray m = false := h.forall_isStray_eq_false_iff.2 hb
    have hl' : u.isStray l = true := by rw [h.isStray_eq, hl]
    rw [scan_of_first_stray hb hl, scan_of_first_stray hb' hl', h.strayLine_eq]

/-- **Tables that differ in the order of their rules have the same finding**, where the required
    shape is separate from the others. -/
theorem scan_eq (h : u.Reorders t) (hs : ∀ name, t.required = some name → t.Separates name ls) :
    u.scan ls = t.scan ls := by
  by_cases hn : ∀ l ∈ ls, t.isStray l = false
  · have hseen : u.seen ls = t.seen ls := by
      rw [Seen.mk.injEq]
      exact ⟨h.declaration_seen_eq, h.required_seen_eq hs⟩
    rw [scan_of_no_stray hn, scan_of_no_stray (h.forall_isStray_eq_false_iff.2 hn), h.conclude_eq,
      hseen]
  · exact h.scan_eq_of_stray hn

/-- **In any case they differ in one way at most**: one of them accepts where the other one misses
    the required shape. -/
theorem scan_cases (h : u.Reorders t) (ls : List Line) :
    u.scan ls = t.scan ls ∨
      (u.scan ls = .accepted ∧ t.scan ls = t.missingRequired) ∨
      (u.scan ls = t.missingRequired ∧ t.scan ls = .accepted) := by
  by_cases hn : ∀ l ∈ ls, t.isStray l = false
  · have hd : (u.seen ls).declaration = (t.seen ls).declaration := h.declaration_seen_eq
    rw [scan_of_no_stray hn, scan_of_no_stray (h.forall_isStray_eq_false_iff.2 hn), h.conclude_eq,
      conclude, conclude, hd]
    cases (t.seen ls).declaration with
    | false => exact .inl rfl
    | true =>
      cases (u.seen ls).required <;> cases (t.seen ls).required
      · exact .inl rfl
      · exact .inr (.inr ⟨rfl, rfl⟩)
      · exact .inr (.inl ⟨rfl, rfl⟩)
      · exact .inl rfl
  · exact .inl (h.scan_eq_of_stray hn)

end Reorders

/-! ## The grammars -/

/-- In a grammar that requires a shape there is no other shape. -/
theorem separates_grammar (ht : t ∈ Grammar.tables) (hr : t.required = some name) (ls : List Line) :
    t.Separates name ls := by
  have honly : ∀ t ∈ Grammar.tables, ∀ s ∈ t.shapes,
      t.required = none ∨ t.required = some s.name := by
    decide
  refine separates_of_forall_name_eq (fun s hs => ?_) ls
  rcases honly t ht s hs with hn | hn
  · rw [hr] at hn
    cases hn
  · rw [hr] at hn
    exact (Option.some.inj hn).symm

/-- **The order of the rules decides about the required shape only.**  Tables that differ in the order
    of their rules have the same finding if no shape is required, or if no line that counts has both
    the required shape and a shape of another name.  In any case they agree on stray lines and on a
    missing declaration; where they do not agree, one of them accepts and the other one misses the
    required shape.  The rules of a grammar may stand in any order. -/
theorem scan_reordered :
    (∀ u t : RuleTable, u.Reorders t → ∀ ls,
      ((∀ name, t.required = some name → t.Separates name ls) → u.scan ls = t.scan ls) ∧
      (∀ k ∈ [ErrorKind.badSyntax, .noType],
        (u.scan ls).kind = some k ∨ (t.scan ls).kind = some k → u.scan ls = t.scan ls) ∧
      (u.scan ls ≠ t.scan ls →
        (u.scan ls = .accepted ∧ t.scan ls = t.missingRequired) ∨
        (u.scan ls = t.missingRequired ∧ t.scan ls = .accepted))) ∧
    ∀ t ∈ Grammar.tables, ∀ u : RuleTable, u.Reorders t → ∀ ls, u.scan ls = t.scan ls := by
  constructor
  · intro u t h ls
    refine ⟨h.scan_eq, ?_, (h.scan_cases ls).resolve_left⟩
    intro k hk hkind
    -- neither of the two findings that may differ has one of these kinds
    have hdata : k ≠ .noData := by
      rintro rfl
      simp at hk
    rcases h.scan_cases ls with he | ⟨hu, ht⟩ | ⟨hu, ht⟩
    · exact he
    · rw [hu, ht] at hkind
      rcases hkind with hk' | hk'
      · cases hk'
      · exact absurd (Option.some.inj hk').symm hdata
    · rw [hu, ht] at hkind
      rcases hkind with hk' | hk'
      · exact absurd (Option.some.inj hk').symm hdata
      · cases hk'
  · intro t ht u h ls
    exact h.scan_eq fun name hr => separates_grammar ht hr ls

/-- If a class diagram had to have a member, it would matter whether members come first: the line
    `class : A` opens a class as well.  The line `a : B` does not.  The rules for states overlap, but
    none of them is required. -/
theorem scan_reordered_classes :
    let t : RuleTable := { Grammar.classes with required := some "member" }
    let u : RuleTable := { t with shapes := t.shapes.reverse }
    let v : RuleTable := { Grammar.states with shapes := Grammar.states.shapes.reverse }
    let ls := ["classDiagram".toList, "class : A".toList]
    let ms := ["classDiagram".toList, "a : B".toList]
    u.Reorders t ∧
      (t.Separates "member" ms ∧ u.scan ms = t.scan ms) ∧
      (u.scan ls ≠ t.scan ls ∧ u.scan ls = .accepted ∧ t.scan ls = t.missingRequired) ∧
      v.Reorders Grammar.states ∧
        v.scan ["stateDiagram".toList, "[*] --> A".toList] =
          Grammar.states.scan ["stateDiagram".toList, "[*] --> A".toList] := by
  intro t u v ls ms
  have h : u.Reorders t := ⟨List.reverse_perm _, .refl _, rfl⟩
  have hv : v.Reorders Grammar.states := ⟨List.reverse_perm _, .refl _, rfl⟩
  have hs : t.Separates "member" ms := by
    unfold Separates
    decide
  have hu : u.scan ls = .accepted := by decide
  have ht : t.scan ls ≠ .accepted := by decide
  have hne : u.scan ls ≠ t.scan ls := by
    rw [hu]
    exact ht.symm
  refine ⟨h, ⟨hs, ?_⟩, ⟨hne, ?_⟩, hv, ?_⟩
  · refine (scan_reordered.1 u t h ms).1 ?_
    rintro _ ⟨⟩
    exact hs
  · exact ((scan_reordered.1 u t h ls).2.2 hne).resolve_right fun hc => ht hc.2
  · exact scan_reordered.2 _ (by simp [Grammar.tables]) v hv _

end RuleTable

end DiagramLint
