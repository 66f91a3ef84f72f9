/-
  The case of the letters of ASCII.

  Detection reads small letters, and the rules of the grammars disregard case.  Three rules of
  flowcharts do not; but a statement is told by its characters, whatever their case, and what closes
  a subgraph has the shape of a statement.  Only the line that opens a subgraph is told by case.

  * `small l`: the line with small letters in the place of the capitals of ASCII;
  * `Finding.small f`: the finding with its message in small letters.

  `small_scan_map_small`: a diagram in small letters has the same finding, but for the letters that
  are quoted.
-/
import DiagramLint.Proofs.Outcome

namespace DiagramLint

open Text

variable {l : Line} {ls : List Line}

/-! ## Small letters in a line -/

namespace Text

/-- The line in small letters. -/
def small (l : Line) : Line := l.map Char.toLower

/-- What is blind to the case of the letters of ASCII is blind to that of all characters. -/
theorem comp_toLower {α : Type} {g : Char → α}
    (h : ∀ n < 128, g (Char.ofNat n).toLower = g (Char.ofNat n)) : g ∘ Char.toLower = g := by
  funext c
  refine ascii_cases (P := fun c => g c.toLower = g c) h (fun c hc => ?_) c
  rw [toLower_of_ge hc]

theorem isEdge_comp_toLower : isEdge ∘ Char.toLower = isEdge := comp_toLower (by decide)

theorem toLower_beq_newline (c : Char) : (c.toLower == '\n') = (c == '\n') :=
  congrFun (comp_toLower (g := (· == '\n')) (by decide)) c

theorem toLower_toLower (c : Char) : c.toLower.toLower = c.toLower :=
  congrFun (comp_toLower (g := Char.toLower) (by decide)) c

theorem small_eq_nil_iff : small l = [] ↔ l = [] := List.map_eq_nil_iff

theorem small_append (v w : Line) : small (v ++ w) = small v ++ small w := List.map_append

theorem small_small (l : Line) : small (small l) = small l := by
  rw [small, small, List.map_map]
  exact List.map_congr_left fun c _ => toLower_toLower c

theorem map_fold_small (l : Line) : (small l).map fold = l.map fold := by
  rw [small, List.map_map, comp_toLower (by decide)]

theorem lower_toLower (c : Char) : lower c.toLower = lower c := by
  refine ascii_cases (P := fun c => lower c.toLower = lower c) (fun n hn => ?_) (fun c hc => ?_) c
  · have htable : ∀ n < 128, (Char.ofNat n).toNat < 128 ∧ (Char.ofNat n).toLower.toNat < 128 := by
      decide
    rw [lower_of_lt (htable n hn).1, lower_of_lt (htable n hn).2, toLower_toLower]
  · rw [toLower_of_ge hc]

/-- Small letters are those of lower case. -/
theorem lowerCase_small (l : Line) : lowerCase (small l) = lowerCase l := by
  simp only [lowerCase, small, List.flatMap_map, lower_toLower]

theorem trim_small (l : Line) : trim (small l) = small (trim l) := by
  simp only [trim, strip, stripEnd, small, List.dropWhile_map, isEdge_comp_toLower,
    ← List.map_reverse]

theorem toList_toLower (s : String) : s.toLower.toList = small s.toList := String.toList_map

theorem lines_toLower (s : String) : lines s.toLower = (lines s).map small := by
  rw [lines, toList_toLower, small, lines]
  induction s.toList with
  | nil => rfl
  | cons c cs ih =>
    rw [List.map_cons, List.splitOn_cons_eq_if_modifyHead, List.splitOn_cons_eq_if_modifyHead,
      toLower_beq_newline, ih]
    split
    · rfl
    · obtain ⟨m, ms, hm⟩ := List.exists_cons_of_ne_nil (List.splitOn_ne_nil '\n' cs)
      rw [hm]
      rfl

theorem toLower_eq_toLower_iff {s s' : String} :
    s.toLower = s'.toLower ↔ small s.toList = small s'.toList := by
  rw [← String.toList_inj, toList_toLower, toList_toLower]

theorem toLower_eq_empty_iff {s : String} : s.toLower = "" ↔ s = "" := String.map_eq_empty

end Text

theorem isPrefixOf_commentMark_small (l : Line) :
    commentMark.isPrefixOf (small l) = commentMark.isPrefixOf l := by
  have hmark : ∀ c : Char, ('%' == c.toLower) = ('%' == c) :=
    congrFun (comp_toLower (g := ('%' == ·)) (by decide))
  rcases l with _ | ⟨c, _ | ⟨d, l⟩⟩ <;>
    simp [commentMark, small, List.isPrefixOf, hmark]

theorem isMeaningful_comp_small : isMeaningful ∘ small = isMeaningful := by
  funext l
  have hnil : (small (trim l) != []) = (trim l != []) := by
    rw [Bool.eq_iff_iff, bne_iff_ne, bne_iff_ne, Ne, small_eq_nil_iff]
  rw [Function.comp_apply, isMeaningful, trim_small, hnil, isPrefixOf_commentMark_small,
    isMeaningful]

theorem detect_map_small (ls : List Line) : detect (ls.map small) = detect ls := by
  unfold detect detectAmong
  rw [List.find?_map, isMeaningful_comp_small]
  cases ls.find? isMeaningful with
  | none => rfl
  | some l => simp only [Option.map_some, trim_small, lowerCase_small]

theorem elementCount_map_small (ls : List Line) : elementCount (ls.map small) = elementCount ls := by
  rw [elementCount, List.countP_map, isMeaningful_comp_small, elementCount]

/-! ## Rules -/

theorem accepts_ofPattern_small (name : String) (p : Pattern) (l : Line) :
    (Rule.ofPattern name p .caseless).accepts (small l) =
      (Rule.ofPattern name p .caseless).accepts l := by
  show p.starts .caseless (small l) = p.starts .caseless l
  rw [← p.starts_map_fold, map_fold_small, p.starts_map_fold]

namespace RuleTable

variable {t : RuleTable}

/-- Flowcharts apart, no rule regards case. -/
theorem exists_eq_ofPattern (ht : t ∈ Grammar.tables) (hd : t.dialect ≠ .flowchart) :
    ∀ r ∈ t.rules, ∃ name p, r = .ofPattern name p .caseless := by
  have h := Grammar.table?_eq_some_iff.2 ⟨ht, rfl⟩
  intro r hr
  generalize t.dialect = d at h hd
  cases d <;> cases h
  case flowchart => exact absurd rfl hd
  all_goals
    simp only [rules, bodyRules, Grammar.sequence, Grammar.classes, Grammar.states,
      Grammar.entities, Grammar.gantt, Grammar.journey, Grammar.pie, Grammar.gitGraph,
      Grammar.mindmap, List.cons_append, List.nil_append, List.mem_cons, List.not_mem_nil,
      or_false] at hr
    rcases hr with rfl | rfl | rfl | rfl | rfl <;> exact ⟨_, _, rfl⟩

end RuleTable

/-! ## Flowcharts -/

namespace Grammar

/-- The characters of the statements of flowcharts. -/
def statementChar : CharClass := .among statementItems

/-- The shape of statements. -/
def statement : Pattern := blanks ++ .many1 statementChar ++ finish

theorem statementChar_toLower (c : Char) :
    statementChar.holds .exact c.toLower = statementChar.holds .exact c :=
  congrFun (comp_toLower (g := statementChar.holds .exact) (by decide +kernel)) c

theorem holds_statementChar_of_isBlank {c : Char} (h : isBlank c = true) :
    statementChar.holds .exact c = true := by
  have hb : ClassItem.blank ∈ statementItems := by simp [statementItems]
  refine List.any_eq_true.2 ⟨.blank, hb, ?_⟩
  simpa [Folding.mates, ClassItem.covers] using h

/-- A statement is a line of the characters of statements. -/
theorem starts_statement_iff : statement.starts .exact l = true ↔
    l ≠ [] ∧ ∀ c ∈ l, statementChar.holds .exact c = true := by
  rw [statement, Pattern.starts_append_assoc, Pattern.starts_blanks_append_iff]
  simp only [Pattern.starts_append_iff, consumes_many1_iff, Pattern.starts_finish_iff]
  constructor
  · rintro ⟨b, _, hb, rfl, r, ⟨v, hne, hv, rfl⟩, hr⟩
    have hblank : ∀ s, AllBlank s → ∀ c ∈ s, statementChar.holds .exact c = true :=
      fun s hs c hc => holds_statementChar_of_isBlank (hs c hc)
    refine ⟨by simp [hne], ?_⟩
    exact List.forall_mem_append.2 ⟨hblank b hb, List.forall_mem_append.2 ⟨hv, hblank r hr⟩⟩
  · rintro ⟨hne, hl⟩
    refine ⟨[], l, by simp [AllBlank], rfl, [], ⟨l, hne, hl, ?_⟩, by simp [AllBlank]⟩
    rw [List.append_nil]

theorem starts_statement_small (l : Line) :
    statement.starts .exact (small l) = statement.starts .exact l := by
  rw [Bool.eq_iff_iff, starts_statement_iff, starts_statement_iff, Ne, small_eq_nil_iff, small]
  simp only [List.forall_mem_map, statementChar_toLower, Ne]

/-- The word `end` has the shape of a statement. -/
theorem starts_statement_of_end (h : (alone "end").starts .exact l = true) :
    statement.starts .exact l = true := by
  rw [alone, Pattern.starts_append_iff] at h
  obtain ⟨r, hw, hr⟩ := h
  obtain ⟨v, hv, rfl⟩ := consumes_word_iff.1 hw
  rw [Pattern.starts_finish_iff] at hr
  have hid : Folding.exact.fold = id := rfl
  rw [hid, List.map_id, List.map_id] at hv
  subst hv
  have hend : "end".toList.all (statementChar.holds .exact) = true := by decide
  refine starts_statement_iff.2
    ⟨by simp, List.forall_mem_append.2 ⟨List.all_eq_true.1 hend, ?_⟩⟩
  exact fun c hc => holds_statementChar_of_isBlank (hr c hc)

/-- A line opens a subgraph if it begins with that word. -/
theorem starts_subgraph_iff :
    (Pattern.text "subgraph").starts .exact l = true ↔ "subgraph".toList <+: l := by
  have hid : Folding.exact.fold = id := rfl
  simp only [Pattern.starts_iff, consumes_word_iff, hid, List.map_id]
  constructor
  · rintro ⟨r, _, rfl, rfl⟩
    exact List.prefix_append _ _
  · rintro ⟨r, rfl⟩
    exact ⟨r, _, rfl, rfl⟩

end Grammar

namespace RuleTable

theorem role_flowchart_of_not_subgraph (h : ¬ "subgraph".toList <+: l) :
    Grammar.flowchart.role l =
      if Grammar.flowchart.declaration.accepts l then .declaration
      else if Grammar.statement.starts .exact l then .shape "statement" else .stray := by
  have hopen : (Pattern.text "subgraph").starts .exact l = false := by
    rwa [← Bool.not_eq_true, Grammar.starts_subgraph_iff]
  have hshapes : Grammar.flowchart.shapes = [.ofPattern "statement" Grammar.statement .exact] := rfl
  have hmarkers : Grammar.flowchart.markers.any (·.accepts l) =
      ((Pattern.text "subgraph").starts .exact l || (Grammar.alone "end").starts .exact l) := by
    simp [Grammar.flowchart, Grammar.exactShape, Rule.ofPattern]
  rw [role, hshapes, hmarkers, hopen, Bool.false_or, List.find?_cons]
  split
  · rfl
  cases hs : Grammar.statement.starts .exact l with
  | true => simp [Rule.ofPattern, hs]
  | false =>
    have hend : (Grammar.alone "end").starts .exact l = false := by
      rw [← Bool.not_eq_true]
      intro he
      rw [Grammar.starts_statement_of_end he] at hs
      cases hs
    simp [Rule.ofPattern, hs, hend]

/-- But for the lines that open a subgraph, no line of a flowchart is told by its case. -/
theorem role_flowchart_small (h : ¬ "subgraph".toList <+: small l) :
    Grammar.flowchart.role (small l) = Grammar.flowchart.role l := by
  have h' : ¬ "subgraph".toList <+: l := by
    intro hl
    exact h (hl.map Char.toLower)
  have hd : Grammar.flowchart.declaration.accepts (small l) =
      Grammar.flowchart.declaration.accepts l := accepts_ofPattern_small _ _ l
  rw [role_flowchart_of_not_subgraph h, role_flowchart_of_not_subgraph h', hd,
    Grammar.starts_statement_small]

/-- **Where no subgraph is opened in a flowchart, no line is told by its case.** -/
theorem role_small {t : RuleTable} (ht : t ∈ Grammar.tables)
    (h : t.dialect = .flowchart → ¬ "subgraph".toList <+: small l) :
    t.role (small l) = t.role l := by
  by_cases hd : t.dialect = .flowchart
  · have hf := Grammar.table?_eq_some_iff.2 ⟨ht, hd⟩
    cases hf
    exact role_flowchart_small (h hd)
  · refine role_congr fun r hr => ?_
    obtain ⟨name, p, rfl⟩ := exists_eq_ofPattern ht hd r hr
    exact accepts_ofPattern_small name p l

end RuleTable

/-! ## Findings -/

theorem meaningful_map_small (ls : List Line) :
    meaningful (ls.map small) = (meaningful ls).map small := by
  have hcomp : trim ∘ small = small ∘ trim := funext trim_small
  rw [meaningful, List.filter_map, isMeaningful_comp_small, List.map_map, hcomp, ← List.map_map,
    meaningful]

/-- The finding with its message in small letters. -/
def Finding.small (f : Finding) : Finding := { f with error := f.error.map String.toLower }

namespace RuleTable

variable {t : RuleTable}

theorem small_strayLine_small (n : Nat) (l : Line) :
    (t.strayLine n (small l)).small = (t.strayLine n l).small := by
  have hquoted : ∀ v w : Line, small (v ++ (small l ++ w)) = small (v ++ (l ++ w)) := by
    intro v w
    simp only [small_append, small_small]
  have herror : ∀ a b : String, (a ++ String.ofList (small l) ++ b).toLower =
      (a ++ String.ofList l ++ b).toLower := by
    intro a b
    rw [toLower_eq_toLower_iff]
    simpa only [String.toList_append, String.toList_ofList, List.append_assoc] using hquoted _ _
  simp only [strayLine, Finding.small, Finding.rejected, Option.map_some, herror]

/-- **A diagram in small letters has the same finding**, but for the letters that are quoted, if no
    subgraph is opened in a flowchart. -/
theorem small_scan_map_small (ht : t ∈ Grammar.tables)
    (h : t.dialect = .flowchart → ∀ m ∈ meaningful (ls.map small), ¬ "subgraph".toList <+: m) :
    (t.scan (ls.map small)).small = (t.scan ls).small := by
  refine apply_scanFrom_map (congrFun isMeaningful_comp_small) ?_ ?_
  · intro l hl hm
    rw [trim_small]
    refine role_small ht fun hd => ?_
    rw [meaningful_map_small] at h
    exact h hd _ (List.mem_map_of_mem (mem_meaningful.2 ⟨l, hl, hm, rfl⟩))
  · intro n l
    rw [trim_small, small_strayLine_small]

end RuleTable

/-! ## Answers -/

theorem Diagnostic.fields_of_small {x x' : Diagnostic} (h : x.finding.small = x'.finding.small) :
    x.isValid = x'.isValid ∧ x.kind = x'.kind ∧ x.line = x'.line ∧ x.hint = x'.hint ∧
      x.error.map String.toLower = x'.error.map String.toLower := by
  simp only [Finding.small, Finding.mk.injEq] at h
  obtain ⟨hv, he, hk, hl, hh⟩ := h
  exact ⟨hv, hk, LineNumber.map_val_injective hl, hh, he⟩

namespace Engine

/-- **The case of the letters of ASCII does not matter.** -/
theorem validate_of_toLower_eq {s s' : String} (h : s.toLower = s'.toLower)
    (hg : detect (lines s) = .flowchart →
      ∀ l ∈ meaningful (lines s), ¬ "subgraph".toList <+: small l) :
    ∃ x x', (standard.validate (.text s)).value = .ok x ∧
      (standard.validate (.text s')).value = .ok x' ∧ x.isValid = x'.isValid ∧ x.kind = x'.kind ∧
      x.line = x'.line ∧ x.hint = x'.hint ∧ x.diagramType = x'.diagramType ∧
      x.elementCount = x'.elementCount ∧
      x.error.map String.toLower = x'.error.map String.toLower := by
  have hls : (lines s).map small = (lines s').map small := by
    rw [← lines_toLower, h, lines_toLower]
  have hd : detect (lines s') = detect (lines s) := by
    rw [← detect_map_small, ← hls, detect_map_small]
  by_cases hu : detect (lines s) = .unknown
  · have hempty : s = "" ↔ s' = "" := by
      rw [← toLower_eq_empty_iff, h, toLower_eq_empty_iff]
    rw [validate_text_of_unknown hu, validate_text_of_unknown (hd.trans hu)]
    refine ⟨_, _, rfl, rfl, ?_⟩
    simp only [hempty, and_self]
  obtain ⟨t, ht, -⟩ := exists_isDeclared_of_detect hu
  obtain ⟨htm, htd⟩ := Grammar.table?_eq_some_iff.1 ht
  obtain ⟨x, hx, hf, htype, hcount⟩ := exists_standard_validate ht
  obtain ⟨x', hx', hf', htype', hcount'⟩ := exists_standard_validate (hd ▸ ht)
  have hsub : t.dialect = .flowchart →
      ∀ m ∈ meaningful ((lines s).map small), ¬ "subgraph".toList <+: m := by
    intro hfl
    rw [meaningful_map_small]
    exact List.forall_mem_map.2 (hg (htd ▸ hfl))
  have hsmall : x.finding.small = x'.finding.small := by
    rw [hf, hf', ← RuleTable.small_scan_map_small htm hsub, hls,
      RuleTable.small_scan_map_small htm (hls ▸ hsub)]
  have hcounts : x.elementCount = x'.elementCount := by
    rw [hcount, hcount', ← elementCount_map_small, hls, elementCount_map_small]
  obtain ⟨hv, hk, hl, hh, he⟩ := Diagnostic.fields_of_small hsmall
  have htypes : x.diagramType = x'.diagramType := by rw [htype, htype', hd]
  exact ⟨x, x', hx, hx', hv, hk, hl, hh, htypes, hcounts, he⟩

/-- A stray line is named alike in capitals and in small letters, behind an `end` in either. -/
theorem validate_of_toLower_eq_stray :
    ∃ x x', (standard.validate (.text "graph TD\nEND\nA;B")).value = .ok x ∧
      (standard.validate (.text "GRAPH td\nend\na;b")).value = .ok x' ∧
      x.line = some ⟨3, by decide⟩ ∧ x'.line = some ⟨3, by decide⟩ ∧
      x.error = some "Invalid graph syntax: \"A;B\"" ∧
      x.error.map String.toLower = x'.error.map String.toLower := by
  have hno : (meaningful (lines "graph TD\nEND\nA;B")).all
      (fun l => !"subgraph".toList.isPrefixOf (small l)) = true := by decide +kernel
  have hsub : ∀ l ∈ meaningful (lines "graph TD\nEND\nA;B"), ¬ "subgraph".toList <+: small l := by
    intro l hl hp
    have hl' := List.all_eq_true.1 hno l hl
    rw [List.isPrefixOf_iff_prefix.2 hp] at hl'
    cases hl'
  have hlower : "graph TD\nEND\nA;B".toLower = "GRAPH td\nend\na;b".toLower :=
    toLower_eq_toLower_iff.2 (by decide +kernel)
  obtain ⟨x, x', hx, hx', -, -, hline, -, -, -, herror⟩ :=
    validate_of_toLower_eq hlower fun _ => hsub
  have hd : detect (lines "graph TD\nEND\nA;B") = .flowchart := by decide +kernel
  have ht : Grammar.table? (detect (lines "graph TD\nEND\nA;B")) = some Grammar.flowchart := by
    rw [hd]
    rfl
  have hscan : Grammar.flowchart.scan (lines "graph TD\nEND\nA;B") =
      Diagnostic.finding ⟨.rejected ⟨"Invalid graph syntax: \"A;B\"", some .badSyntax,
        some ⟨3, by decide⟩, some Grammar.flowchart.hint⟩, "graph", 3⟩ := by decide +kernel
  obtain ⟨hf, -⟩ := of_standard_validate_eq_ok ht hx
  have hv := verdict_eq_of_finding (hf.trans hscan)
  have hl : x.line = some ⟨3, by decide⟩ := by rw [Diagnostic.line, hv]; rfl
  refine ⟨x, x', hx, hx', hl, hline ▸ hl, ?_, herror⟩
  rw [Diagnostic.error, hv]
  rfl

/-- Where a subgraph is opened the case does matter. -/
example : Grammar.flowchart.isStray "subgraph a;b".toList = false ∧
    Grammar.flowchart.isStray "SUBGRAPH a;b".toList = true := by decide +kernel

end Engine

end DiagramLint
