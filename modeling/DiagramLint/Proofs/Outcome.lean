/-
  How the standard engine answers.

  A text of no dialect is told so.  For every other text there are three outcomes, of which exactly
  one describes the answer: a stray line, a pie chart without data, and no problem at all.

  * `isData`: the line has the shape of an entry of a pie chart;
  * `Outcome.Describes o t ls x`: the diagnostic `x` is as the outcome `o` says, for the lines `ls`
    and the table `t`.

  `existsUnique_describes`: the pass over a diagram that opens with its declaration has exactly one
  outcome.
-/
import Mathlib.Logic.ExistsUnique
import DiagramLint.Proofs.Detection
import DiagramLint.Proofs.Validation

namespace DiagramLint

open Text

/-! ## Outcomes -/

/-- The line counts, and has the shape of an entry of a pie chart. -/
def isData (l : Line) : Bool := isMeaningful l && Grammar.pie.shapes.any (·.accepts (trim l))

/-- How a diagram of a dialect may be answered. -/
inductive Outcome where
  | stray
  | noData
  | valid
  deriving Repr, DecidableEq

/-- The answer is as the outcome says, and so are the lines. -/
def Outcome.Describes (t : RuleTable) (ls : List Line) (x : Diagnostic) : Outcome → Prop
  | .stray => ∃ h : ls.findIdx t.isStray < ls.length,
    ls.findIdx isMeaningful < ls.findIdx t.isStray ∧ x.verdict = .rejected
      { message := "Invalid " ++ t.label ++ " syntax: \"" ++
          String.ofList (trim ls[ls.findIdx t.isStray]) ++ "\""
        kind := some .badSyntax
        line := some ⟨ls.findIdx t.isStray + 1, Nat.succ_pos _⟩
        hint := some t.hint }
  | .noData => (∀ l ∈ ls, t.isStray l = false) ∧ t.dialect = .pie ∧
    (∀ l ∈ ls, isData l = false) ∧ x.verdict = .rejected
      { message := "No data found in pie chart"
        kind := some .noData
        line := some ⟨2, Nat.succ_pos _⟩
        hint := some "Add data in format: \"Label\" : value" }
  | .valid => (∀ l ∈ ls, t.isStray l = false) ∧ (t.dialect = .pie → ∃ l ∈ ls, isData l = true) ∧
    x.verdict = .accepted

variable {t : RuleTable} {ls : List Line} {x : Diagnostic}

theorem Outcome.Describes.unique {o o' : Outcome} (h : o.Describes t ls x)
    (h' : o'.Describes t ls x) : o = o' := by
  cases o <;> cases o' <;> simp_all [Outcome.Describes]

theorem verdict_eq_of_finding {v : Verdict}
    (h : x.finding = Diagnostic.finding ⟨v, x.diagramType, x.elementCount⟩) : x.verdict = v :=
  congrArg Diagnostic.verdict (Diagnostic.ext_finding h rfl rfl)

/-! ## The pie chart -/

theorem exists_cons_of_opening_pie {s : List Char} (h : Opening .pie s) : ∃ s', s = 'p' :: s' := by
  cases h with
  | @word _ w b hw hb =>
    have hw' : w = "pie" := by simpa [openingWords] using hw
    subst hw'
    exact ⟨_, rfl⟩
  | title => exact ⟨_, rfl⟩

/-- An entry of a pie chart begins with a quotation mark, blanks apart, and so is no declaration. -/
theorem accepts_declaration_pie_of_data {l : Line}
    (h : Grammar.pie.shapes.any (·.accepts l) = true) :
    Grammar.pie.declaration.accepts l = false := by
  rw [← Bool.not_eq_true, accepts_declaration_iff (by simp [Grammar.tables])]
  intro ho
  obtain ⟨s, hs⟩ := exists_cons_of_opening_pie ho
  have hd : (Grammar.blanks ++ (.text "\"" ++ (.many1 (.except [.char '"']) ++ (.text "\"" ++
      (Grammar.blanks ++ (.text ":" ++ (Grammar.blanks ++ (.many1 Grammar.digit ++
        Grammar.finish)))))))).starts .caseless l = true := by
    simpa [Grammar.pie, Grammar.shape, Rule.ofPattern, Pattern.starts_append_assoc] using h
  obtain ⟨b, r, hb, rfl, hr⟩ := Pattern.starts_blanks_append_iff.1 hd
  obtain ⟨r', hr', -⟩ := Pattern.starts_text_append_iff.1 hr
  rw [List.map_append, hr'] at hs
  cases b with
  | nil => cases hs
  | cons c b =>
    injection hs with hc
    have hbc := hb c List.mem_cons_self
    rw [← isBlank_fold, hc] at hbc
    cases hbc

theorem isRequired_pie (l : Line) :
    Grammar.pie.isRequired l = Grammar.pie.shapes.any (·.accepts l) := by
  obtain ⟨r, hs, hn⟩ : ∃ r, Grammar.pie.shapes = [r] ∧ some r.name = Grammar.pie.required :=
    ⟨_, rfl, rfl⟩
  have hm : Grammar.pie.markers = [] := rfl
  unfold RuleTable.isRequired RuleTable.role
  cases h : Grammar.pie.shapes.any (·.accepts l) with
  | true =>
    rw [accepts_declaration_pie_of_data h]
    rw [hs, List.any_cons, List.any_nil, Bool.or_false] at h
    simp [hs, h, hn]
  | false =>
    rw [hs, List.any_cons, List.any_nil, Bool.or_false] at h
    cases Grammar.pie.declaration.accepts l <;> simp [hs, h, hm]

theorem required_of_ne_pie (ht : t ∈ Grammar.tables) (hd : t.dialect ≠ .pie) :
    t.required = none := by
  have h := Grammar.table?_eq_some_iff.2 ⟨ht, rfl⟩
  generalize t.dialect = d at h hd
  cases d <;> cases h <;> first | rfl | exact absurd rfl hd

/-- The pie chart alone requires something, and that is data. -/
theorem required_seen_iff (ht : t ∈ Grammar.tables) :
    (t.seen ls).required = true ↔ (t.dialect = .pie → ∃ l ∈ ls, isData l = true) := by
  by_cases hd : t.dialect = .pie
  · have h := Grammar.table?_eq_some_iff.2 ⟨ht, hd⟩
    cases h
    have hr : Grammar.pie.required.isNone = false := rfl
    simp only [RuleTable.seen, hr, Bool.false_or, List.any_eq_true, mem_meaningful, isRequired_pie,
      hd, true_imp_iff, isData, Bool.and_eq_true]
    constructor
    · rintro ⟨_, ⟨l, hl, hm, rfl⟩, h⟩
      exact ⟨l, hl, hm, h⟩
    · rintro ⟨l, hl, hm, h⟩
      exact ⟨_, ⟨l, hl, hm, rfl⟩, h⟩
  · simp [RuleTable.seen, required_of_ne_pie ht hd, hd]

/-! ## The pass over a diagram with a declaration -/

namespace RuleTable.IsDeclared

theorem one_le_elementCount (h : t.IsDeclared ls) : 1 ≤ elementCount ls := by
  obtain ⟨l, hl, -⟩ := h
  have hm := List.mem_of_find?_eq_some hl
  exact List.countP_pos_iff.2 ⟨l, hm, List.find?_some hl⟩

theorem declaration_seen (h : t.IsDeclared ls) : (t.seen ls).declaration = true := by
  obtain ⟨l, hl, ha⟩ := h
  have hm : trim l ∈ meaningful ls :=
    mem_meaningful.2 ⟨l, List.mem_of_find?_eq_some hl, List.find?_some hl, rfl⟩
  exact List.any_eq_true.2 ⟨trim l, hm, ha⟩

theorem scan_of_no_stray (h : t.IsDeclared ls) (hn : ∀ l ∈ ls, t.isStray l = false) :
    t.scan ls = if (t.seen ls).required then .accepted else t.missingRequired := by
  rw [RuleTable.scan_of_no_stray hn, conclude, h.declaration_seen]
  cases (t.seen ls).required <;> rfl

/-- The declaration is the first line that counts and is not stray, so a stray line comes later. -/
theorem findIdx_lt (h : t.IsDeclared ls) :
    ls.findIdx isMeaningful < ls.findIdx t.isStray := by
  have hle : ls.findIdx isMeaningful ≤ ls.findIdx t.isStray :=
    List.findIdx_le_findIdx fun m _ hs => (isStray_iff.1 hs).1
  refine Nat.lt_of_le_of_ne hle fun he => ?_
  obtain ⟨l, hl, ha⟩ := h
  have hs : ls.find? t.isStray = some l := by
    rw [List.find?_eq_getElem?_findIdx, ← he, ← List.find?_eq_getElem?_findIdx, hl]
  have hl' := List.find?_some hs
  rw [isStray_eq_false_of_accepts List.mem_cons_self ha] at hl'
  cases hl'

end RuleTable.IsDeclared

/-- **The pass over a diagram with a declaration has exactly one outcome.** -/
theorem existsUnique_describes (ht : t ∈ Grammar.tables) (hd : t.IsDeclared ls)
    (hx : x.finding = t.scan ls) : ∃! o : Outcome, o.Describes t ls x := by
  refine existsUnique_of_exists_of_unique ?_ fun o o' h h' => h.unique h'
  by_cases hlt : ls.findIdx t.isStray < ls.length
  · rw [RuleTable.scan_of_findIdx_lt hlt] at hx
    exact ⟨.stray, hlt, hd.findIdx_lt, verdict_eq_of_finding hx⟩
  · have hn : ∀ l ∈ ls, t.isStray l = false :=
      List.findIdx_eq_length.1 (Nat.le_antisymm List.findIdx_le_length (Nat.not_lt.1 hlt))
    rw [hd.scan_of_no_stray hn] at hx
    by_cases hr : (t.seen ls).required = true
    · rw [if_pos hr] at hx
      exact ⟨.valid, hn, (required_seen_iff ht).1 hr, verdict_eq_of_finding hx⟩
    · rw [if_neg hr] at hx
      have hdata : t.dialect = .pie ∧ ∀ l ∈ ls, isData l = false := by
        simpa [required_seen_iff ht] using hr
      have hpie := Grammar.table?_eq_some_iff.2 ⟨ht, hdata.1⟩
      cases hpie
      exact ⟨.noData, hn, hdata.1, hdata.2, verdict_eq_of_finding hx⟩

/-! ## The standard engine -/

namespace Engine

theorem find?_standard (d : Dialect) :
    standard.registry.find? d = (Grammar.table? d).map Validator.ofTable := by
  cases d <;> rfl

/-- The standard engine reports what the pass by the table of the dialect finds. -/
theorem exists_standard_validateLines {d : Dialect} (ls : List Line)
    (h : Grammar.table? d = some t) :
    ∃ x, (standard.validateLines d ls).value = .ok x ∧ x.finding = t.scan ls ∧
      x.diagramType = d.name ∧ x.elementCount = elementCount ls := by
  have hv : standard.registry.find? d = some (.ofTable t) := by rw [find?_standard, h]; rfl
  exact exists_validateLines_of_coherent (value_examine_of_some hv) (t.coherent_scan ls)

/-- A text of a dialect is answered by what the pass over its lines finds. -/
theorem exists_standard_validate {s : String} (h : Grammar.table? (detect (lines s)) = some t) :
    ∃ x, (standard.validate (.text s)).value = .ok x ∧ x.finding = t.scan (lines s) ∧
      x.diagramType = (detect (lines s)).name ∧ x.elementCount = elementCount (lines s) := by
  have hu : detect (lines s) ≠ .unknown := by
    intro hu
    rw [hu] at h
    cases h
  rw [validate_text_of_ne hu]
  exact exists_standard_validateLines (lines s) h

theorem of_standard_validate_eq_ok {s : String} (h : Grammar.table? (detect (lines s)) = some t)
    (hx : (standard.validate (.text s)).value = .ok x) : x.finding = t.scan (lines s) ∧
      x.diagramType = (detect (lines s)).name ∧ x.elementCount = elementCount (lines s) := by
  obtain ⟨y, hy, hy'⟩ := exists_standard_validate h
  obtain rfl := Except.ok.inj (hy.symm.trans hx)
  exact hy'

/-- **Every text has one outcome.**  Without a dialect it is told so.  Otherwise the answer names the
    dialect and the number of lines that count; there is a stray line, of which the first is named,
    or there are no data in a pie chart, or all is well. -/
theorem standard_outcome {s : String} (hs : s ≠ "") :
    (detect (lines s) = .unknown → (standard.validate (.text s)).value = .ok .noDialect) ∧
    (detect (lines s) ≠ .unknown → ∃ t x, Grammar.table? (detect (lines s)) = some t ∧
      (standard.validate (.text s)).value = .ok x ∧ x.diagramType = (detect (lines s)).name ∧
      x.elementCount = elementCount (lines s) ∧ 1 ≤ x.elementCount ∧
      ∃! o : Outcome, o.Describes t (lines s) x) := by
  rw [validate_text hs]
  constructor
  · intro hd
    rw [validateText_of_unknown hd]
  · intro hd
    obtain ⟨t, ht, hdecl⟩ := exists_isDeclared_of_detect hd
    obtain ⟨x, hx, hf, htype, hcount⟩ := exists_standard_validateLines (lines s) ht
    rw [validateText_of_ne hd]
    refine ⟨t, x, ht, hx, htype, hcount, ?_, ?_⟩
    · rw [hcount]
      exact hdecl.one_le_elementCount
    · exact existsUnique_describes (Grammar.table?_eq_some_iff.1 ht).1 hdecl hf

/-- A stray line behind the declaration is named. -/
theorem standard_outcome_stray : ∃ t x, Grammar.table? .flowchart = some t ∧
    (standard.validate (.text "graph TD\n???")).value = .ok x ∧
      Outcome.Describes t (lines "graph TD\n???") x .stray := by
  have hd : detect (lines "graph TD\n???") = .flowchart := by decide +kernel
  obtain ⟨t, x, ht, hx, -, -, -, o, ho, -⟩ :=
    (standard_outcome (s := "graph TD\n???") (by decide)).2 (by rw [hd]; decide)
  rw [hd] at ht
  refine ⟨t, x, ht, hx, ?_⟩
  cases ht
  cases o with
  | stray => exact ho
  | noData => exact absurd ho.2.1 (by decide)
  | valid =>
    have hl : "???".toList ∈ lines "graph TD\n???" := by decide +kernel
    have hs : Grammar.flowchart.isStray "???".toList = true := by decide +kernel
    rw [ho.1 _ hl] at hs
    cases hs

end Engine

end DiagramLint
