/-
  What an answer owes to the beginning of a text.

  Detection looks at the first line that counts, and the pass ends at the first stray line.  Neither
  looks further, so the rest of the text may be anything.

  * `Engine.StopsAt e t before l`: the pass of the engine `e` over a text that begins with the lines
    `before` and `l` is one by the table `t`, and `l` is its first stray line.

  `StopsAt.exists_answer`: all texts with that beginning have the same answer, but for the number of
  lines that count.  `Opens.unlines_before`: without the stray line the beginning is a diagram by
  itself.
-/
import DiagramLint.Proofs.Independence
import DiagramLint.Proofs.Layout
import DiagramLint.Proofs.Repair
import DiagramLint.Proofs.SameLines

namespace DiagramLint

open Text

variable {before after ms : List Line} {l : Line} {s s' : String} {x : Diagnostic}
  {t : RuleTable}

/-! ## Texts with the same beginning -/

theorem exists_eq_append_of_take_eq
    (h : ms.take (before.length + 1) = (before ++ l :: after).take (before.length + 1)) :
    ∃ after', ms = before ++ l :: after' := by
  have hb : (before ++ l :: after).take (before.length + 1) = before ++ [l] := by
    rw [List.take_length_add_append]
    rfl
  refine ⟨ms.drop (before.length + 1), ?_⟩
  rw [← List.take_append_drop (before.length + 1) ms, h, hb]
  simp

theorem detect_append_cons (hl : isMeaningful l = true) (before after : List Line) :
    detect (before ++ l :: after) = detect (before ++ [l]) := by
  have hm : ∃ m ∈ before ++ [l], isMeaningful m = true := ⟨l, by simp, hl⟩
  rw [← detect_append_of_exists hm after, List.append_assoc, List.singleton_append]

namespace Engine

variable {e : Engine}

/-- The validator of the engine for the beginning `before ++ [l]` of a text scans by the table,
    which knows the lines before `l` and does not know `l`. -/
structure StopsAt (e : Engine) (t : RuleTable) (before : List Line) (l : Line) : Prop where
  detect_ne : detect (before ++ [l]) ≠ .unknown
  table : e.registry.find? (detect (before ++ [l])) = some (.ofTable t)
  known : ∀ m ∈ before, t.isStray m = false
  stray : t.isStray l = true

/-- **What stands behind the first stray line does not matter.** -/
theorem StopsAt.exists_answer (h : e.StopsAt t before l) (hs : lines s = before ++ l :: after) :
    ∃ x, (e.validate (.text s)).value = .ok x ∧
      x.finding = t.strayLine (before.length + 1) (trim l) ∧
      x.diagramType = (detect (before ++ [l])).name ∧ x.elementCount = elementCount (lines s) := by
  have hd : detect (lines s) = detect (before ++ [l]) := by
    rw [hs, detect_append_cons (RuleTable.isStray_iff.1 h.stray).1]
  have hscan : t.scan (lines s) = t.strayLine (before.length + 1) (trim l) := by
    rw [hs, RuleTable.scan_of_first_stray h.known h.stray]
  rw [validate_text_of_ne (hd ▸ h.detect_ne), hd, ← hscan]
  exact exists_validateLines_of_coherent (value_examine_of_some h.table) (t.coherent_scan _)

theorem detect_ne_of_kind (hx : (e.validate (.text s)).value = .ok x)
    (hk : x.kind = some .badSyntax) : detect (lines s) ≠ .unknown := by
  intro hu
  rw [validate_text_of_unknown hu] at hx
  cases hx
  split at hk <;> cases hk

/-- An engine of tables says that a line is stray only where its pass stops. -/
theorem ScansTables.exists_stopsAt (he : e.ScansTables)
    (hx : (e.validate (.text s)).value = .ok x) (hk : x.kind = some .badSyntax) :
    ∃ t before l after, lines s = before ++ l :: after ∧ e.StopsAt t before l := by
  have hd := detect_ne_of_kind hx hk
  rw [validate_text_of_ne hd] at hx
  obtain ⟨f, hc, hf, hcases⟩ := he.exists_examine (detect (lines s)) (lines s)
  obtain ⟨y, hy, hyf, -⟩ := exists_validateLines_of_coherent hf hc
  obtain rfl := Except.ok.inj (hy.symm.trans hx)
  have hkind : f.kind = some .badSyntax := (congrArg Finding.kind hyf).symm.trans hk
  rcases hcases with rfl | ⟨t, hv, rfl⟩
  · cases hkind
  rcases t.no_stray_or_first_stray (lines s) with hn | ⟨before, l, after, hs, hb, hl⟩
  · rw [RuleTable.scan_of_no_stray hn] at hkind
    exact absurd hkind (RuleTable.kind_conclude_ne _)
  · rw [hs, detect_append_cons (RuleTable.isStray_iff.1 hl).1] at hd hv
    exact ⟨t, before, l, after, hs, hd, hv, hb, hl⟩

/-- A text that is rejected for a stray line tells by its beginning what every text with the same
    beginning is told. -/
theorem ScansTables.validate_of_take_eq (he : e.ScansTables)
    (hx : (e.validate (.text s)).value = .ok x) (hk : x.kind = some .badSyntax) :
    ∃ k ∈ x.line, ∀ s', (lines s').take k.val = (lines s).take k.val →
      (e.validate (.text s')).value = .ok { x with elementCount := elementCount (lines s') } := by
  obtain ⟨t, before, l, after, hs, h⟩ := he.exists_stopsAt hx hk
  obtain ⟨y, hy, hf, htype, -⟩ := h.exists_answer hs
  obtain rfl := Except.ok.inj (hy.symm.trans hx)
  have hl : y.line = some ⟨before.length + 1, Nat.succ_pos _⟩ :=
    LineNumber.map_val_injective (congrArg Finding.line hf)
  refine ⟨_, hl, fun s' hs' => ?_⟩
  rw [hs] at hs'
  obtain ⟨after', hs'⟩ := exists_eq_append_of_take_eq hs'
  obtain ⟨y', hy', hf', htype', hcount'⟩ := h.exists_answer hs'
  have he : y' = { y with elementCount := elementCount (lines s') } :=
    Diagnostic.ext_finding (hf'.trans hf.symm) (htype'.trans htype.symm) hcount'
  rw [hy', he]

/-! ## The beginning by itself -/

/-- Without the stray line and what follows it a text still opens with its declaration, and no line
    is stray. -/
theorem Opens.unlines_before (h : Opens t s) (hs : lines s = before ++ l :: after)
    (hl : t.isStray l = true) : Opens t (unlines before) ∧ lines (unlines before) = before ∧
      detect before = detect (lines s) := by
  have hdecl := (hs ▸ h.declared).of_stray hl
  have hne : before ≠ [] := by
    rintro rfl
    obtain ⟨m, hm, -⟩ := hdecl
    cases hm
  have hb : lines (unlines before) = before := by
    refine lines_unlines hne fun m hm => newline_notMem_of_mem_lines (s := s) ?_
    rw [hs]
    exact List.mem_append_left _ hm
  have hd : detect before = detect (lines s) := by rw [hs, hdecl.detect_append]
  exact ⟨⟨by rw [hb, hd, h.table], by rw [hb]; exact hdecl⟩, hb, hd⟩

/-- The lines before the first stray one are sound by themselves, or a pie chart without data. -/
theorem exists_standard_validate_before (hx : (standard.validate (.text s)).value = .ok x)
    (hk : x.kind = some .badSyntax) : ∃ k ∈ x.line, ∃ y,
      (standard.validate (.text (unlines ((lines s).take (k.val - 1))))).value = .ok y ∧
      y.diagramType = x.diagramType ∧ (y.isValid = true ∧ y.kind = none ∨
        y.diagramType = Dialect.pie.name ∧ y.kind = some .noData) := by
  obtain ⟨t, h⟩ := exists_opens (detect_ne_of_kind hx hk)
  obtain ⟨before, l, after, hs, hb, hl, hline⟩ := h.stray_of_answer hx hk
  obtain ⟨hopens, hlines, hd⟩ := h.unlines_before hs hl
  obtain ⟨y, hy⟩ := hopens.exists_answer
  obtain ⟨-, htype, -⟩ := of_standard_validate_eq_ok h.table hx
  obtain ⟨-, htype', -⟩ := of_standard_validate_eq_ok hopens.table hy
  have htake : (lines s).take before.length = before := by
    rw [hs, List.take_left]
  rw [← hlines] at hb
  refine ⟨_, hline, y, ?_, ?_, ?_⟩
  · rw [Nat.add_sub_cancel, htake, hy]
  · rw [htype, htype', hlines, hd]
  · rw [htype', hopens.detect_eq]
    exact (hopens.answer_of_no_stray hy hb).imp_right fun ⟨hp, hk⟩ => ⟨congrArg Dialect.name hp, hk⟩

/-! ## Answers and beginnings -/

theorem ne_empty_of_exists (hm : ∃ l ∈ lines s, isMeaningful l = true) : s ≠ "" := by
  rintro rfl
  obtain ⟨l, hl, hm⟩ := hm
  rw [List.mem_singleton.1 hl] at hm
  cases hm

/-- **A text without a dialect has none whatever follows**, if it has a line that counts. -/
theorem validate_append_of_unknown (hm : ∃ l ∈ lines s, isMeaningful l = true)
    (hd : detect (lines s) = .unknown) (hs : lines s' = lines s ++ ms) :
    e.validate (.text s') = e.validate (.text s) := by
  have hd' : detect (lines s') = .unknown := by rw [hs, detect_append_of_exists hm, hd]
  have hm' : ∃ l ∈ lines s', isMeaningful l = true := by
    obtain ⟨l, hl, hm⟩ := hm
    exact ⟨l, hs ▸ List.mem_append_left _ hl, hm⟩
  rw [validate_text_of_unknown hd, validate_text_of_unknown hd', if_neg (ne_empty_of_exists hm),
    if_neg (ne_empty_of_exists hm')]

/-- **A text is rejected for its beginning.**  If an engine that scans by tables finds a stray line,
    it answers every text that is the same up to that line alike, but for the number of lines that
    count.  To the standard engine the lines before it are sound by themselves, or a pie chart without
    data.  And a text that has a line that counts but no dialect stays so to every engine, whatever
    lines follow. -/
theorem validate_beginning :
    (∀ e : Engine, e.ScansTables → ∀ s x, (e.validate (.text s)).value = .ok x →
      x.kind = some .badSyntax → ∃ k ∈ x.line, ∀ s',
        (lines s').take k.val = (lines s).take k.val →
          (e.validate (.text s')).value = .ok { x with elementCount := elementCount (lines s') }) ∧
    (∀ s x, (standard.validate (.text s)).value = .ok x → x.kind = some .badSyntax →
      ∃ k ∈ x.line, ∃ y,
        (standard.validate (.text (unlines ((lines s).take (k.val - 1))))).value = .ok y ∧
        y.diagramType = x.diagramType ∧ (y.isValid = true ∧ y.kind = none ∨
          y.diagramType = Dialect.pie.name ∧ y.kind = some .noData)) ∧
    ∀ (e : Engine) s x, (∃ l ∈ lines s, isMeaningful l = true) →
      (e.validate (.text s)).value = .ok x → x.kind = some .noType →
      x.diagramType = Dialect.unknown.name →
      ∀ s' ms, lines s' = lines s ++ ms → (e.validate (.text s')).value = .ok x := by
  refine ⟨fun _ he _ _ => he.validate_of_take_eq, fun _ _ => exists_standard_validate_before, ?_⟩
  intro e s x hm hx _ htype s' ms hs
  have hd : detect (lines s) = .unknown :=
    Dialect.name_injective ((diagramType_validate hx).symm.trans htype)
  rw [validate_append_of_unknown hm hd hs, hx]

/-- More lines may follow a stray one, before it there is a pie chart without data, and no dialect is
    declared further down. -/
theorem validate_beginning_pie : ∃ x, (standard.validate (.text "pie\n???")).value = .ok x ∧
    (standard.validate (.text "pie\n???\n!!!\n\"a\" : 1")).value =
      .ok { x with elementCount := 4 } ∧
    (∃ y, (standard.validate (.text "pie")).value = .ok y ∧ y.diagramType = "pie" ∧
      (y.isValid = true ∨ y.kind = some .noData)) ∧
    (standard.validate (.text "A --> B\ngraph TD")).value = .ok .noDialect := by
  have hx : (standard.validate (.text "pie\n???")).value = .ok
      ⟨.rejected ⟨"Invalid pie syntax: \"???\"", some .badSyntax, some ⟨2, by decide⟩,
        some Grammar.pie.hint⟩, "pie", 2⟩ := by rfl
  obtain ⟨htake, hbefore, hunknown⟩ := validate_beginning
  refine ⟨_, hx, ?_, ?_, ?_⟩
  · obtain ⟨k, hk, h⟩ := htake standard scansTables_standard _ _ hx rfl
    cases hk
    exact h _ (by decide +kernel)
  · obtain ⟨k, hk, y, hy, htype, hy'⟩ := hbefore _ _ hx rfl
    cases hk
    have hs : unlines ((lines "pie\n???").take 1) = "pie" := by decide +kernel
    exact ⟨y, hs ▸ hy, htype, hy'.imp And.left And.right⟩
  · exact hunknown standard "A --> B" _ ⟨_, .head _, by decide +kernel⟩ (by rfl) rfl rfl _
      ["graph TD".toList] (by decide +kernel)

end Engine

end DiagramLint
