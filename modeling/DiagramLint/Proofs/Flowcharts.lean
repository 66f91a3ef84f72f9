/-
  The lines of flowcharts.

  A line of a flowchart is good if it consists of the characters of nodes, edges and labels, or
  begins as a line that opens a subgraph does.  The declaration is such a line, and so is the line
  that closes a subgraph; nothing is asked of where they stand.

  * `isFlowChar c`: the character occurs in nodes, edges and labels;
  * `IsFlowLine l`: the trimmed line is good;
  * `isBoundary l`: the line closes a subgraph, or begins as one that opens a subgraph does.

  `isStray_flowchart_iff`: no rule of flowcharts accepts a line that is not good, and some rule
  accepts every other.
-/
import DiagramLint.Proofs.LetterCase
import DiagramLint.Proofs.SameLines
import DiagramLint.Proofs.Words

namespace DiagramLint

open Text

/-! ## The characters of a line -/

/-- The marks of nodes, edges and labels. -/
def flowMarks : List Char := "[]()\x7b\x7d<>\"':|+-*/\\.,".toList

/-- The character occurs in nodes, edges and labels. -/
def isFlowChar (c : Char) : Bool := isNameChar c || isBlank c || flowMarks.contains c

/-- The line consists of the characters of flowcharts, or begins as one that opens a subgraph. -/
def IsFlowLine (l : Line) : Prop := (∀ c ∈ l, isFlowChar c = true) ∨ "subgraph".toList <+: l

/-- The line closes a subgraph, or begins as one that opens a subgraph does. -/
def isBoundary (l : Line) : Bool :=
  trim l == "end".toList || "subgraph".toList.isPrefixOf (trim l)

variable {l : Line} {c : Char}

theorem any_covers_char (cs : List Char) (c : Char) :
    (cs.map ClassItem.char).any (·.covers c) = cs.contains c := by
  rw [List.any_map, ← List.any_beq]
  rfl

/-- The characters of statements are those of flowcharts; the class has no ranges but those of
    letters and digits. -/
theorem Grammar.holds_statementChar (c : Char) :
    statementChar.holds .exact c = isFlowChar c := by
  have hmarks : "[]()\x7b\x7d<>\"':|+-*/\\.,->".toList.contains c = flowMarks.contains c := by
    have hsub : "[]()\x7b\x7d<>\"':|+-*/\\.,->".toList.all flowMarks.contains = true := by
      decide
    have hsup : flowMarks.all "[]()\x7b\x7d<>\"':|+-*/\\.,->".toList.contains = true := by
      decide
    rw [Bool.eq_iff_iff]
    exact ⟨fun h => List.all_eq_true.1 hsub c (List.contains_iff_mem.1 h),
      fun h => List.all_eq_true.1 hsup c (List.contains_iff_mem.1 h)⟩
  have hblank : [ClassItem.blank].any (·.covers c) = isBlank c := by simp [ClassItem.covers]
  have hmates : statementChar.holds .exact c = statementItems.any (·.covers c) := by
    simp [statementChar, CharClass.holds, ClassItem.anyCovers, Folding.mates]
  rw [hmates, statementItems, List.any_append, List.any_append, any_covers_wordItems, hblank,
    any_covers_char, hmarks, isFlowChar]

/-! ## The declaration -/

theorem isFlowChar_of_fold_mem_word {w : List Char}
    (hw : w.all (fun a => (mates a).all isFlowChar) = true) (h : fold c ∈ w) :
    isFlowChar c = true := by
  have hmates := List.all_eq_true.1 hw _ h
  exact List.all_eq_true.1 hmates c (mem_mates_iff.2 (fold_fold c).symm)

theorem isFlowChar_of_fold_mem_blank {b : List Char} (hb : AllBlank b) (h : fold c ∈ b) :
    isFlowChar c = true := by
  have hc := hb _ h
  rw [isBlank_fold] at hc
  simp [isFlowChar, hc]

/-- None of the letters that open a flowchart differs from one outside ASCII in case only. -/
theorem Opening.isFlowChar_of_fold_mem {s : List Char} (h : Opening .flowchart s)
    (hc : fold c ∈ s) : isFlowChar c = true := by
  have hwords : openingWords.all (fun x => x.1 != .flowchart ||
      x.2.toList.all fun a => (mates a).all isFlowChar) = true := by decide
  have hdirections : directions.all (fun v => v.toList.all fun a => (mates a).all isFlowChar) =
      true := by decide
  have hw : ∀ w, (.flowchart, w) ∈ openingWords →
      w.toList.all (fun a => (mates a).all isFlowChar) = true := fun w hw =>
    List.all_eq_true.1 hwords _ hw
  have hv := List.all_eq_true.1 hdirections
  cases h with
  | word hm hb =>
    rcases List.mem_append.1 hc with hc | hc
    · exact isFlowChar_of_fold_mem_word (hw _ hm) hc
    · exact isFlowChar_of_fold_mem_blank hb hc
  | direction hm hb hd hb' =>
    simp only [List.mem_append] at hc
    rcases hc with hc | hc | hc | hc
    · exact isFlowChar_of_fold_mem_word (hw _ hm) hc
    · exact isFlowChar_of_fold_mem_blank hb hc
    · exact isFlowChar_of_fold_mem_word (hv _ hd) hc
    · exact isFlowChar_of_fold_mem_blank hb' hc

/-- **The declaration of a flowchart consists of the characters of flowcharts.** -/
theorem isFlowChar_of_accepts (h : Grammar.flowchart.declaration.accepts l = true) :
    ∀ c ∈ l, isFlowChar c = true := fun _ hc =>
  (accepts_flowchart_iff.1 h).isFlowChar_of_fold_mem (List.mem_map_of_mem hc)

/-! ## Stray lines -/

theorem role_flowchart_eq_stray_iff (hne : l ≠ []) :
    Grammar.flowchart.role l = .stray ↔ ¬ IsFlowLine l := by
  by_cases hsub : "subgraph".toList <+: l
  · have hopen : (Grammar.exactShape "subgraph_open" (.text "subgraph")).accepts l = true :=
      Grammar.starts_subgraph_iff.2 hsub
    refine iff_of_false (fun hs => ?_) (not_not.2 (.inr hsub))
    rw [RuleTable.role_eq_stray_iff.1 hs _ (.tail _ (.tail _ (.head _)))] at hopen
    cases hopen
  · have hstatement := Grammar.starts_statement_iff (l := l)
    simp only [Grammar.holds_statementChar, and_iff_right hne] at hstatement
    rw [RuleTable.role_flowchart_of_not_subgraph hsub, IsFlowLine, or_iff_left hsub, ← hstatement]
    split
    · next hd => simp [hstatement.2 (isFlowChar_of_accepts hd)]
    · split <;> simp_all

/-- **The stray lines of a flowchart are the lines that are not good.** -/
theorem isStray_flowchart_iff : Grammar.flowchart.isStray l = true ↔
    isMeaningful l = true ∧ ¬ IsFlowLine (trim l) := by
  rw [RuleTable.isStray, Bool.and_eq_true, beq_iff_eq]
  refine and_congr_right fun hm => role_flowchart_eq_stray_iff ?_
  rw [isMeaningful, Bool.and_eq_true, bne_iff_ne] at hm
  exact hm.1

/-! ## Lines that open and close subgraphs -/

/-- A line that opens or closes a subgraph is good wherever it stands. -/
theorem isStray_eq_false_of_isBoundary (h : isBoundary l = true) :
    Grammar.flowchart.isStray l = false := by
  rw [← Bool.not_eq_true, isStray_flowchart_iff]
  rintro ⟨-, hl⟩
  rw [isBoundary, Bool.or_eq_true, beq_iff_eq, List.isPrefixOf_iff_prefix] at h
  rcases h with hend | hsub
  · rw [hend] at hl
    exact hl (.inl (List.all_eq_true.1 (by decide)))
  · exact hl (.inr hsub)

theorem no_stray_filter_iff {ls : List Line} :
    (∀ l ∈ ls.filter (fun l => !isBoundary l), Grammar.flowchart.isStray l = false) ↔
      ∀ l ∈ ls, Grammar.flowchart.isStray l = false := by
  constructor
  · intro h l hl
    cases hb : isBoundary l with
    | true => exact isStray_eq_false_of_isBoundary hb
    | false => exact h l (List.mem_filter.2 ⟨hl, by simp [hb]⟩)
  · intro h l hl
    exact h l (List.mem_filter.1 hl).1

/-! ## The standard engine -/

namespace Engine

variable {s : String}

theorem exists_validate_flowchart (hd : detect (lines s) = .flowchart) :
    ∃ x, (standard.validate (.text s)).value = .ok x ∧
      x.finding = Grammar.flowchart.scan (lines s) ∧
      (x.isValid = true ↔ ∀ l ∈ lines s, Grammar.flowchart.isStray l = false) := by
  have hu : detect (lines s) ≠ .unknown := by
    rw [hd]
    decide
  obtain ⟨t, ht, hdecl⟩ := exists_isDeclared_of_detect hu
  obtain ⟨x, hx, hf, -⟩ := exists_standard_validate ht
  rw [hd] at ht
  cases ht
  refine ⟨x, hx, hf, ?_⟩
  rw [Diagnostic.isValid_eq_true_iff, ← Diagnostic.finding_eq_accepted_iff, hf,
    RuleTable.scan_eq_accepted_iff]
  -- a flowchart requires nothing but its declaration
  exact and_iff_left ⟨hdecl.declaration_seen, rfl⟩

theorem no_stray_flowchart_iff {ls : List Line} :
    (∀ l ∈ ls, Grammar.flowchart.isStray l = false) ↔ ∀ l ∈ meaningful ls, IsFlowLine l := by
  simp only [forall_mem_meaningful, ← Bool.not_eq_true, isStray_flowchart_iff, not_and, not_not]

/-- **The language of flowcharts.**  A flowchart is valid if every line that counts consists of the
    characters of nodes, edges and labels, or begins as one that opens a subgraph.  If there are
    other lines, the first of them is reported.  So lines that open or close subgraphs may be put in
    and taken out behind the first line that counts; how deep they nest is not asked. -/
theorem flowchart_language (hd : detect (lines s) = .flowchart) :
    ∃ x, (standard.validate (.text s)).value = .ok x ∧
      (x.isValid = true ↔ ∀ l ∈ meaningful (lines s), IsFlowLine l) ∧
      (x.isValid = false → ∃ before l after, lines s = before ++ l :: after ∧
        (∀ m ∈ meaningful before, IsFlowLine m) ∧ isMeaningful l = true ∧ ¬ IsFlowLine (trim l) ∧
        x.verdict = .rejected
          { message := "Invalid graph syntax: \"" ++ String.ofList (trim l) ++ "\""
            kind := some .badSyntax
            line := some ⟨before.length + 1, Nat.succ_pos _⟩
            hint := some Grammar.flowchart.hint }) ∧
      ∀ s' before rest rest', (∃ l ∈ before, isMeaningful l = true) → lines s = before ++ rest →
        lines s' = before ++ rest' →
        rest.filter (fun l => !isBoundary l) = rest'.filter (fun l => !isBoundary l) →
        ∃ x', (standard.validate (.text s')).value = .ok x' ∧ x'.isValid = x.isValid := by
  obtain ⟨x, hx, hf, hvalid⟩ := exists_validate_flowchart hd
  refine ⟨x, hx, hvalid.trans no_stray_flowchart_iff, ?_, ?_⟩
  · intro hinvalid
    rcases Grammar.flowchart.no_stray_or_first_stray (lines s) with
      h | ⟨before, l, after, hs, hb, hl⟩
    · rw [hvalid.2 h] at hinvalid
      cases hinvalid
    · obtain ⟨hm, hflow⟩ := isStray_flowchart_iff.1 hl
      rw [hs, RuleTable.scan_of_first_stray hb hl] at hf
      exact ⟨before, l, after, hs, no_stray_flowchart_iff.1 hb, hm, hflow, verdict_eq_of_finding hf⟩
  · intro s' before rest rest' hbefore hs hs' hrest
    have hd' : detect (lines s') = .flowchart := by
      rw [hs', detect_append_of_exists hbefore, ← detect_append_of_exists hbefore rest, ← hs, hd]
    obtain ⟨x', hx', -, hvalid'⟩ := exists_validate_flowchart hd'
    refine ⟨x', hx', ?_⟩
    rw [Bool.eq_iff_iff, hvalid, hvalid', hs, hs', ← no_stray_filter_iff, List.filter_append,
      ← hrest, ← List.filter_append, no_stray_filter_iff]

/-- Closing a subgraph that was never opened makes no difference. -/
theorem flowchart_language_stray_end : ∃ x x',
    detect (lines "graph TD\nA --> B\nend") = .flowchart ∧
    (standard.validate (.text "graph TD\nA --> B\nend")).value = .ok x ∧ x.isValid = true ∧
    (standard.validate (.text "graph TD\nA --> B")).value = .ok x' ∧ x'.isValid = true := by
  have hd : detect (lines "graph TD\nA --> B\nend") = .flowchart := by decide
  obtain ⟨x, hx, hvalid, -, hmove⟩ := flowchart_language hd
  obtain ⟨x', hx', heq⟩ := hmove "graph TD\nA --> B" ["graph TD".toList]
    ["A --> B".toList, "end".toList] ["A --> B".toList] ⟨_, .head _, by decide⟩
    (by decide) (by decide) (by decide)
  have hall : (lines "graph TD\nA --> B\nend").all (fun l => !Grammar.flowchart.isStray l) =
      true := by decide
  have hv := hvalid.2 (no_stray_flowchart_iff.1 (by simpa using hall))
  exact ⟨x, x', hd, hx, hv, hx', heq.trans hv⟩

end Engine

end DiagramLint
