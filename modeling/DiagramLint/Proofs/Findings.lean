/-
  What the rules of a table say of a diagram.

  The pass over the lines remembers two things and may stop early.  Here its finding is described
  without memory and without order, by the rules that accept a line.

  * `RuleTable.Knows t l`: some rule of the table accepts the trimmed line `l`;
  * `RuleTable.Supplies t name l`: the line is no declaration, and the first shape that accepts it has
    the name;
  * `RuleTable.Finds t ls f`: the rules say `f` of the lines `ls`.  A line that is not known comes
    before a missing declaration, and this before a missing shape.

  `scan_eq_iff_finds`: the pass finds what the rules say, and nothing else.
-/
import Mathlib.Logic.Basic
import DiagramLint.Grammar
import DiagramLint.Proofs.Scanning

namespace DiagramLint

open Text

namespace RuleTable

/-! ## One line -/

/-- The line is a declaration, has a shape or is a marker. -/
def Knows (t : RuleTable) (l : Line) : Prop :=
  t.declaration.accepts l = true ∨ (∃ r ∈ t.shapes, r.accepts l = true) ∨
    ∃ r ∈ t.markers, r.accepts l = true

/-- The line is no declaration, and of the shapes that it has the first one bears the name. -/
def Supplies (t : RuleTable) (name : String) (l : Line) : Prop :=
  t.declaration.accepts l = false ∧ ∃ before r after, t.shapes = before ++ r :: after ∧
    (∀ q ∈ before, q.accepts l = false) ∧ r.accepts l = true ∧ r.name = name

/-! ## All lines -/

/-- What the rules say of the lines of a diagram. -/
inductive Finds (t : RuleTable) (ls : List Line) : Finding → Prop
  /-- The first line that counts and is not known has a number among all lines. -/
  | unknown {before l after} : ls = before ++ l :: after →
      (∀ m ∈ before, isMeaningful m = true → t.Knows (trim m)) →
      isMeaningful l = true → ¬ t.Knows (trim l) →
      Finds t ls (.rejected .badSyntax
        ("Invalid " ++ t.label ++ " syntax: \"" ++ String.ofList (trim l) ++ "\"")
        (some (before.length + 1)) (some t.hint))
  | undeclared : (∀ l ∈ meaningful ls, t.Knows l) →
      (∀ l ∈ meaningful ls, t.declaration.accepts l = false) →
      Finds t ls (.rejected .noType ("Missing " ++ t.label ++ " declaration") (some 1)
        (some ("Add \"" ++ t.declarationToken ++ "\" at the beginning")))
  /-- An empty message counts as none. -/
  | unsupplied {name} : (∀ l ∈ meaningful ls, t.Knows l) →
      (∃ l ∈ meaningful ls, t.declaration.accepts l = true) → t.required = some name →
      (∀ l ∈ meaningful ls, ¬ t.Supplies name l) →
      Finds t ls (.rejected .noData
        ((t.missingMessage.filter (· ≠ "")).getD ("No " ++ name ++ " lines found")) (some 2)
        t.missingHint)
  | complete : (∀ l ∈ meaningful ls, t.Knows l) →
      (∃ l ∈ meaningful ls, t.declaration.accepts l = true) →
      (∀ name, t.required = some name → ∃ l ∈ meaningful ls, t.Supplies name l) →
      Finds t ls .accepted

variable {t : RuleTable} {l : Line} {ls : List Line} {f : Finding} {name : String}

/-! ## The pass and the rules -/

theorem isStray_iff_not_knows :
    t.isStray l = true ↔ isMeaningful l = true ∧ ¬ t.Knows (trim l) := by
  rw [isStray_iff, Knows]
  simp only [rules, bodyRules, List.forall_mem_cons, List.forall_mem_append, not_or, not_exists,
    not_and, Bool.not_eq_true]

theorem isStray_eq_false_iff :
    t.isStray l = false ↔ (isMeaningful l = true → t.Knows (trim l)) := by
  rw [← Bool.not_eq_true, isStray_iff_not_knows, not_and, not_not]

theorem no_stray_iff_knows :
    (∀ l ∈ ls, t.isStray l = false) ↔ ∀ l ∈ meaningful ls, t.Knows l := by
  simp only [isStray_eq_false_iff, forall_mem_meaningful]

/-- The shape that counts for a line is the first one that accepts it, after the declaration. -/
theorem isRequired_iff_supplies (hr : t.required = some name) :
    t.isRequired l = true ↔ t.Supplies name l := by
  simp only [isRequired, role, Supplies, hr]
  cases hd : t.declaration.accepts l with
  | true => simp
  | false =>
    cases hs : t.shapes.find? (·.accepts l) with
    | some r =>
      obtain ⟨ha, before, after, he, hb⟩ := List.find?_eq_some_iff_append.1 hs
      simp only [Bool.false_eq_true, if_false, beq_iff_eq, Option.some.injEq, true_and]
      constructor
      · rintro rfl
        exact ⟨before, r, after, he, by simpa using hb, ha, rfl⟩
      · rintro ⟨before', r', after', he', hb', ha', rfl⟩
        have hs' : t.shapes.find? (·.accepts l) = some r' :=
          List.find?_eq_some_iff_append.2 ⟨ha', before', after', he', by simpa using hb'⟩
        rw [hs] at hs'
        cases hs'
        rfl
    | none =>
      rw [List.find?_eq_none] at hs
      simp only [Bool.false_eq_true, if_false, true_and]
      constructor
      · cases t.markers.any (·.accepts l) <;> simp
      · rintro ⟨before, r, after, he, -, ha, -⟩
        exact absurd ha (hs r (by simp [he]))

theorem declaration_seen_iff : (t.seen ls).declaration = true ↔
    ∃ l ∈ meaningful ls, t.declaration.accepts l = true := by
  simp [seen]

theorem required_seen_iff_supplies : (t.seen ls).required = true ↔
    ∀ name, t.required = some name → ∃ l ∈ meaningful ls, t.Supplies name l := by
  cases hr : t.required with
  | none => simp [seen, hr]
  | some name =>
    simp only [seen, hr, Option.isNone_some, Bool.false_or, List.any_eq_true,
      isRequired_iff_supplies hr, Option.some.injEq, forall_eq']

theorem missingText_of_required (hr : t.required = some name) :
    t.missingText = (t.missingMessage.filter (· ≠ "")).getD ("No " ++ name ++ " lines found") := by
  unfold missingText
  split
  · next h => simp [h, hr]
  · next h => simp [h, hr, Option.filter_some]
  · next m hm h =>
    have hne : m ≠ "" := by
      rintro rfl
      exact hm rfl
    simp [h, Option.filter_some, hne]

/-- **What the pass finds is what the rules say.** -/
theorem finds_scan (t : RuleTable) (ls : List Line) : t.Finds ls (t.scan ls) := by
  rcases t.no_stray_or_first_stray ls with h | ⟨before, l, after, rfl, hb, hl⟩
  · have hk := no_stray_iff_knows.1 h
    rw [scan_of_no_stray h, conclude]
    by_cases hd : (t.seen ls).declaration = true
    · by_cases hr : (t.seen ls).required = true
      · simp only [hd, hr, Bool.not_true, Bool.false_eq_true, if_false]
        exact .complete hk (declaration_seen_iff.1 hd) (required_seen_iff_supplies.1 hr)
      · have hn := mt required_seen_iff_supplies.2 hr
        simp only [not_forall, not_exists, not_and] at hn
        obtain ⟨name, hname, hn⟩ := hn
        rw [Bool.not_eq_true] at hr
        simp only [hd, hr, Bool.not_true, Bool.not_false, Bool.false_eq_true, if_false, if_true]
        rw [missingRequired, missingText_of_required hname]
        exact .unsupplied hk (declaration_seen_iff.1 hd) hname hn
    · have hn := mt declaration_seen_iff.2 hd
      simp only [not_exists, not_and, Bool.not_eq_true] at hn
      rw [Bool.not_eq_true] at hd
      simp only [hd, Bool.not_false, if_true]
      exact .undeclared hk hn
  · obtain ⟨hm, hk⟩ := isStray_iff_not_knows.1 hl
    rw [scan_of_first_stray hb hl]
    exact .unknown rfl (fun m hm => isStray_eq_false_iff.1 (hb m hm)) hm hk

/-- The rules say one thing only: the conditions under which they say it exclude one another. -/
theorem Finds.eq_scan (h : t.Finds ls f) : t.scan ls = f := by
  cases h with
  | unknown hls hb hm hk =>
    subst hls
    exact scan_of_first_stray (fun m hm => isStray_eq_false_iff.2 (hb m hm))
      (isStray_iff_not_knows.2 ⟨hm, hk⟩)
  | undeclared hk hn =>
    have hd : (t.seen ls).declaration = false := by
      rw [← Bool.not_eq_true, declaration_seen_iff]
      rintro ⟨l, hl, ha⟩
      rw [hn l hl] at ha
      cases ha
    rw [scan_of_no_stray (no_stray_iff_knows.2 hk), conclude, hd]
    rfl
  | @unsupplied name hk hd hname hn =>
    have hr : (t.seen ls).required = false := by
      rw [← Bool.not_eq_true, required_seen_iff_supplies]
      intro h
      obtain ⟨l, hl, hs⟩ := h name hname
      exact hn l hl hs
    rw [scan_of_no_stray (no_stray_iff_knows.2 hk), conclude, declaration_seen_iff.2 hd, hr,
      ← missingText_of_required hname]
    rfl
  | complete hk hd hr =>
    rw [scan_of_no_stray (no_stray_iff_knows.2 hk), conclude, declaration_seen_iff.2 hd,
      required_seen_iff_supplies.2 hr]
    rfl

theorem scan_eq_iff_finds : t.scan ls = f ↔ t.Finds ls f :=
  ⟨fun h => h ▸ t.finds_scan ls, Finds.eq_scan⟩

/-! ## A shape that no line can supply -/

theorem Supplies.exists_shape (h : t.Supplies name l) : ∃ r ∈ t.shapes, r.name = name := by
  obtain ⟨-, before, r, after, he, -, -, hn⟩ := h
  exact ⟨r, by simp [he], hn⟩

theorem Finds.isValid_eq_false (h : t.Finds ls f) (hr : t.required = some name)
    (hn : ∀ r ∈ t.shapes, r.name ≠ name) : f.isValid = false := by
  cases h with
  | unknown | undeclared | unsupplied => rfl
  | complete _ _ hs =>
    obtain ⟨l, -, hl⟩ := hs name hr
    obtain ⟨r, hm, he⟩ := hl.exists_shape
    exact absurd he (hn r hm)

/-- **The pass finds exactly what the rules say**, whatever the table and the lines.  So a table that
    requires a name which no shape bears accepts no diagram. -/
theorem scan_exact (t : RuleTable) :
    (∀ ls f, t.scan ls = f ↔ t.Finds ls f) ∧
    ∀ name, t.required = some name → (∀ r ∈ t.shapes, r.name ≠ name) →
      ∀ ls, (t.scan ls).isValid = false :=
  ⟨fun _ _ => scan_eq_iff_finds, fun _ hr hn ls => (t.finds_scan ls).isValid_eq_false hr hn⟩

/-- If a flowchart had to have its opening marker for a shape, none would be accepted, not even one
    that holds the marker.  The stray line of the other one is its third, for the blank one counts. -/
theorem scan_exact_flowchart :
    let t : RuleTable := { Grammar.flowchart with required := some "subgraph_open" }
    (t.required = some "subgraph_open" ∧ (∀ r ∈ t.shapes, r.name ≠ "subgraph_open") ∧
      (t.scan ["graph".toList, "subgraph ;".toList]).isValid = false) ∧
    t.Finds ["graph".toList, [], " A; ".toList, "end".toList]
      (.rejected .badSyntax "Invalid graph syntax: \"A;\"" (some 3) (some t.hint)) := by
  intro t
  have hn : ∀ r ∈ t.shapes, r.name ≠ "subgraph_open" := by decide
  refine ⟨⟨rfl, hn, (scan_exact t).2 "subgraph_open" rfl hn _⟩, ?_⟩
  exact ((scan_exact t).1 _ _).1 (by decide +kernel)

end RuleTable

end DiagramLint
