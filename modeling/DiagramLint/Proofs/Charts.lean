/-
  Pie charts, written and read.

  * `pieText title entries`: the chart with a title or without, and a line for every entry;
  * `FitsTitle` and `FitsLabel`: the titles and labels that can be written so.

  `scan_pieText`: what is written is accepted, if there is an entry.  `entry_language`: so is every
  line of that form, and only these; and the tasks of journeys are cut at their colons.
-/
import DiagramLint.Proofs.Entries
import DiagramLint.Proofs.SameLines
import DiagramLint.Proofs.Summary

namespace DiagramLint

open Text

variable {l : List Char}

/-! ## Writing a chart -/

/-- The line of an entry. -/
def pieEntry (label : String) (n : Nat) : String := "    \"" ++ label ++ "\" : " ++ toString n

/-- The first line of a pie chart, with a title or without. -/
def pieHeading : Option String → String
  | none => "pie"
  | some title => "pie title " ++ title

/-- The text of a pie chart. -/
def pieText (title : Option String) (entries : List (String × Nat)) : String :=
  unlines ((pieHeading title).toList :: entries.map fun e => (pieEntry e.1 e.2).toList)

/-- The title is of one line, and not all of it is trimmed away. -/
def FitsTitle (title : String) : Prop :=
  '\n' ∉ title.toList ∧ ∃ c ∈ title.toList, isEdge c = false

/-- The label can stand between quotation marks on one line. -/
def FitsLabel (label : String) : Prop :=
  label ≠ "" ∧ '"' ∉ label.toList ∧ '\n' ∉ label.toList

variable {title : Option String} {label : String} {n : Nat} {entries : List (String × Nat)}

theorem isNumber_toString (n : Nat) : IsNumber (toString n).toList := by
  rw [Nat.toString_eq_repr, Nat.toList_repr]
  exact ⟨List.ne_nil_of_length_pos Nat.length_toDigits_pos, fun c hc =>
    Nat.isDigit_of_mem_toDigits (by omega) (by omega) hc⟩

theorem allBlank_space : AllBlank " ".toList := List.all_eq_true.1 (by decide)

theorem trim_pieEntry (label : String) (n : Nat) : trim (pieEntry label n).toList =
    '"' :: (label.toList ++ '"' :: (" ".toList ++ ':' :: (" ".toList ++ (toString n).toList))) := by
  have hn := isNumber_toString n
  have hindent : ∀ c ∈ "    ".toList, isEdge c = true := List.all_eq_true.1 (by decide)
  have hentry : (pieEntry label n).toList = "    ".toList ++
      ('"' :: (label.toList ++ "\" : ".toList) ++ (toString n).toList) ++ [] := by
    simp [pieEntry]
  rw [hentry, trim_append_append hindent (by simp)]
  have hself : trim ('"' :: (label.toList ++ "\" : ".toList) ++ (toString n).toList) =
      '"' :: (label.toList ++ "\" : ".toList) ++ (toString n).toList := by
    refine trim_eq_self (by rintro _ ⟨⟩; decide) fun c hc => ?_
    rw [List.getLast?_append_of_ne_nil _ hn.1] at hc
    exact isEdge_eq_false_of_isDigit (hn.2 c (List.mem_of_getLast? hc))
  rw [hself]
  simp

theorem isData_pieEntry (h : FitsLabel label) (n : Nat) :
    isData (pieEntry label n).toList = true := by
  obtain ⟨hne, hquote, -⟩ := h
  have htrim := trim_pieEntry label n
  have hmeaningful : isMeaningful (pieEntry label n).toList = true := by
    rw [isMeaningful, htrim]
    rfl
  have hdata : Grammar.dataLine.starts .caseless (trim (pieEntry label n).toList) = true :=
    (starts_dataLine_iff (trim_trim _)).2 ⟨_, _, _, _, htrim, mt String.toList_eq_nil_iff.1 hne,
      hquote, allBlank_space, allBlank_space, isNumber_toString n⟩
  rw [isData, hmeaningful, Bool.true_and]
  exact List.any_eq_true.2 ⟨_, .head _, hdata⟩

theorem FitsTitle.stripEnd_ne_nil {t : String} (h : FitsTitle t) :
    stripEnd isEdge t.toList ≠ [] := by
  obtain ⟨-, c, hc, hedge⟩ := h
  intro hnil
  rw [(stripEnd_eq_nil_iff isEdge).1 hnil c hc] at hedge
  cases hedge

theorem toList_pieHeading_some (t : String) :
    (pieHeading (some t)).toList = 'p' :: ("ie title ".toList ++ t.toList) := by
  simp [pieHeading]

theorem trim_pieHeading_some {t : String} (h : FitsTitle t) :
    trim (pieHeading (some t)).toList =
      'p' :: ("ie title ".toList ++ stripEnd isEdge t.toList) := by
  have hp : isEdge 'p' = false := by decide
  rw [toList_pieHeading_some, trim, strip_cons_of_neg isEdge _ hp,
    stripEnd_append_of_ne_nil isEdge h.stripEnd_ne_nil]

theorem isMeaningful_pieHeading (h : ∀ t ∈ title, FitsTitle t) :
    isMeaningful (pieHeading title).toList = true := by
  cases title with
  | none => decide
  | some t =>
    rw [isMeaningful, trim_pieHeading_some (h t rfl)]
    rfl

theorem declares_pieHeading (h : ∀ t ∈ title, FitsTitle t) :
    Declares .pie ((trim (pieHeading title).toList).map keyFold) := by
  cases title with
  | none => exact .word (w := "pie") (by decide)
  | some t =>
    have ht := h t rfl
    obtain ⟨b, -, hb⟩ := exists_eq_stripEnd_append isEdge t.toList
    have hword : ('p' :: "ie title ".toList).map keyFold =
        "pie".toList ++ (" ".toList ++ ("title".toList ++ " ".toList)) := by decide
    rw [trim_pieHeading_some ht, ← List.cons_append, List.map_append, hword]
    simp only [List.append_assoc]
    refine .title allBlank_space (by decide) allBlank_space
      (mt List.map_eq_nil_iff.1 ht.stripEnd_ne_nil) fun c hc => ?_
    obtain ⟨d, hd, rfl⟩ := List.mem_map.1 hc
    intro hnewline
    -- folding makes no newlines, so there would be one in the title
    have hd' : (d == '\n') = true := by rw [← keyFold_beq_newline, hnewline]; rfl
    obtain rfl := beq_iff_eq.1 hd'
    exact ht.1 (by rw [hb]; exact List.mem_append_left _ hd)

/-! ## The lines of a chart -/

theorem isMeaningful_of_isData (h : isData l = true) : isMeaningful l = true :=
  (Bool.and_eq_true_iff.1 h).1

theorem isStray_eq_false_of_isData (h : isData l = true) : Grammar.pie.isStray l = false := by
  obtain ⟨r, hr, ha⟩ := List.any_eq_true.1 (Bool.and_eq_true_iff.1 h).2
  exact RuleTable.isStray_eq_false_of_accepts
    (List.mem_cons_of_mem _ (List.mem_append_left _ hr)) ha

theorem isData_of_mem_entries (he : ∀ e ∈ entries, FitsLabel e.1) :
    ∀ l ∈ entries.map (fun e => (pieEntry e.1 e.2).toList), isData l = true :=
  List.forall_mem_map.2 fun e hm => isData_pieEntry (he e hm) e.2

theorem accepts_pieHeading (ht : ∀ t ∈ title, FitsTitle t) :
    Grammar.pie.declaration.accepts (trim (pieHeading title).toList) = true := by
  have hpie : Grammar.pie ∈ Grammar.tables := by simp [Grammar.tables]
  exact accepts_of_accepts_lowerCase hpie
    ((accepts_lowerCase_trim_iff hpie).2 (declares_pieHeading ht))

/-! ## Reading it again -/

section

variable (ht : ∀ t ∈ title, FitsTitle t) (he : ∀ e ∈ entries, FitsLabel e.1)

include ht he

theorem lines_pieText :
    lines (pieText title entries) =
      (pieHeading title).toList :: entries.map fun e => (pieEntry e.1 e.2).toList := by
  refine lines_unlines (List.cons_ne_nil _ _) (List.forall_mem_cons.2 ⟨?_, ?_⟩)
  · cases title with
    | none => decide
    | some t => simp [toList_pieHeading_some, (ht t rfl).1]
  · rw [List.forall_mem_map]
    intro e hm
    simp [pieEntry, (he e hm).2.2, Nat.toString_eq_repr, newline_notMem_toDigits]

theorem find?_isMeaningful_pieText :
    (lines (pieText title entries)).find? isMeaningful = some (pieHeading title).toList := by
  rw [lines_pieText ht he, List.find?_cons_of_pos (isMeaningful_pieHeading ht)]

theorem elementCount_pieText :
    elementCount (lines (pieText title entries)) = entries.length + 1 := by
  have hall : ∀ l ∈ lines (pieText title entries), isMeaningful l = true := by
    rw [lines_pieText ht he]
    exact List.forall_mem_cons.2 ⟨isMeaningful_pieHeading ht,
      fun l hl => isMeaningful_of_isData (isData_of_mem_entries he l hl)⟩
  rw [elementCount, List.countP_eq_length.2 hall, lines_pieText ht he, List.length_cons,
    List.length_map]

theorem required_seen_pieText_iff :
    (Grammar.pie.seen (lines (pieText title entries))).required = true ↔ entries ≠ [] := by
  rw [required_seen_iff (by simp [Grammar.tables]), lines_pieText ht he]
  constructor
  · intro h
    obtain ⟨l, hl, hdata⟩ := h rfl
    rcases List.mem_cons.1 hl with rfl | hl
    · -- the first line is a declaration, and so it is no entry
      have hnot := accepts_declaration_pie_of_data (Bool.and_eq_true_iff.1 hdata).2
      rw [accepts_pieHeading ht] at hnot
      cases hnot
    · rintro rfl
      cases hl
  · intro hne _
    obtain ⟨e, es, rfl⟩ := List.exists_cons_of_ne_nil hne
    exact ⟨_, by simp, isData_pieEntry (he e List.mem_cons_self) e.2⟩

/-- **A pie chart that is written down has its data, if there are any.** -/
theorem scan_pieText :
    Grammar.pie.scan (lines (pieText title entries)) =
      if entries = [] then Grammar.pie.missingRequired else .accepted := by
  have hdecl : Grammar.pie.IsDeclared (lines (pieText title entries)) :=
    ⟨_, find?_isMeaningful_pieText ht he, accepts_pieHeading ht⟩
  have hstray : ∀ l ∈ lines (pieText title entries), Grammar.pie.isStray l = false := by
    rw [lines_pieText ht he]
    refine List.forall_mem_cons.2 ⟨?_, fun l hl => ?_⟩
    · exact RuleTable.isStray_eq_false_of_accepts List.mem_cons_self (accepts_pieHeading ht)
    · exact isStray_eq_false_of_isData (isData_of_mem_entries he l hl)
  have hreq := required_seen_pieText_iff ht he
  rw [hdecl.scan_of_no_stray hstray]
  by_cases hnil : entries = []
  · rw [if_neg (fun h => hreq.1 h hnil), if_pos hnil]
  · rw [if_pos (hreq.2 hnil), if_neg hnil]

end

namespace Engine

/-- **A pie chart is read as it was written.** -/
theorem exists_validate_pieText (ht : ∀ t ∈ title, FitsTitle t)
    (he : ∀ e ∈ entries, FitsLabel e.1) : ∃ x,
      (standard.validate (.text (pieText title entries))).value = .ok x ∧
      x.diagramType = "pie" ∧ x.elementCount = entries.length + 1 ∧
      x.finding = if entries = [] then Grammar.pie.missingRequired else .accepted := by
  have hd : detect (lines (pieText title entries)) = .pie :=
    (detect_eq_iff_declares (find?_isMeaningful_pieText ht he) (by decide)).2
      (declares_pieHeading ht)
  obtain ⟨x, hx, hf, htype, hcount⟩ :=
    exists_standard_validate (s := pieText title entries) (t := Grammar.pie) (by rw [hd]; rfl)
  exact ⟨x, hx, by rw [htype, hd]; rfl, hcount.trans (elementCount_pieText ht he),
    hf.trans (scan_pieText ht he)⟩

/-- **Tasks and data.**  A task of a journey is cut at its first two colons: something stands before
    the first, a number between the two, and a word behind the second.  An entry of a pie chart is a
    label in quotation marks, a colon and a number.  A pie chart that is written in this form, with
    a title or without, is valid if it has an entry; if it has none, the data are missed. -/
theorem entry_language :
    (∃ s, Grammar.journey.rule? "task" = some s ∧ ∀ l, trim l = l → '\n' ∉ l →
      (s.accepts l = true ↔ ∃ a b c, l = a ++ ':' :: (b ++ ':' :: c) ∧ ':' ∉ a ∧ ':' ∉ b ∧ a ≠ [] ∧
        IsNumber (strip isBlank b) ∧ BeginsWord (c.dropWhile isBlank))) ∧
    (∃ s, Grammar.pie.rule? "data" = some s ∧ ∀ l, trim l = l →
      (s.accepts l = true ↔ ∃ label b b' n, l = '"' :: (label ++ '"' :: (b ++ ':' :: (b' ++ n))) ∧
        label ≠ [] ∧ '"' ∉ label ∧ AllBlank b ∧ AllBlank b' ∧ IsNumber n)) ∧
    ∀ title entries, (∀ t ∈ title, FitsTitle t) → (∀ e ∈ entries, FitsLabel e.1) → ∃ x,
      (standard.validate (.text (pieText title entries))).value = .ok x ∧ x.diagramType = "pie" ∧
      x.elementCount = entries.length + 1 ∧ (entries ≠ [] → x.isValid = true) ∧
      (entries = [] → x.isValid = false ∧ x.kind = some .noData) := by
  refine ⟨⟨_, rfl, fun _ => starts_taskLine_iff⟩, ⟨_, rfl, fun _ => starts_dataLine_iff⟩, ?_⟩
  intro title entries ht he
  obtain ⟨x, hx, htype, hcount, hf⟩ := exists_validate_pieText ht he
  refine ⟨x, hx, htype, hcount, fun hne => ?_, fun hnil => ?_⟩
  · rw [if_neg hne] at hf
    exact congrArg Finding.isValid hf
  · rw [if_pos hnil] at hf
    exact ⟨congrArg Finding.isValid hf, congrArg Finding.kind hf⟩

/-- A task with a score, a chart with an entry, and a chart with none. -/
theorem entry_language_pets :
    (∃ s, Grammar.journey.rule? "task" = some s ∧ s.accepts "Make tea: 5 : Me".toList = true) ∧
    (∃ s, Grammar.pie.rule? "data" = some s ∧ s.accepts "\"Dogs\" :386".toList = true) ∧
    pieText (some "Pets") [("Dogs", 386)] = "pie title Pets\n    \"Dogs\" : 386" ∧
    (∃ x, (standard.validate (.text (pieText (some "Pets") [("Dogs", 386)]))).value = .ok x ∧
      x.isValid = true ∧ x.elementCount = 2) ∧
    ∃ x, (standard.validate (.text (pieText none []))).value = .ok x ∧ x.isValid = false ∧
      x.kind = some .noData := by
  obtain ⟨⟨s, hs, htask⟩, ⟨s', hs', hdata⟩, hpie⟩ := entry_language
  have htitle : ∀ t ∈ some "Pets", FitsTitle t := by
    rintro t ⟨⟩
    exact ⟨by decide, 'P', by decide, by decide⟩
  have hlabel : ∀ e ∈ [("Dogs", 386)], FitsLabel e.1 :=
    List.forall_mem_singleton.2 ⟨by decide, by decide, by decide⟩
  obtain ⟨x, hx, -, hcount, hvalid, -⟩ := hpie (some "Pets") [("Dogs", 386)] htitle hlabel
  obtain ⟨y, hy, -, -, -, hnone⟩ := hpie none [] (by simp) (by simp)
  refine ⟨⟨s, hs, ?_⟩, ⟨s', hs', ?_⟩, by decide, ⟨x, hx, hvalid (by simp), hcount⟩,
    y, hy, hnone rfl⟩
  · refine (htask _ (by decide) (by decide)).2 ⟨"Make tea".toList, " 5 ".toList,
      " Me".toList, by decide, by decide, by decide, by decide, ?_, ?_⟩
    · exact ⟨by decide, List.all_eq_true.1 (by decide)⟩
    · exact ⟨'M', by decide, by decide⟩
  · refine (hdata _ (by decide)).2 ⟨"Dogs".toList, " ".toList, [], "386".toList,
      by decide, by decide, by decide, allBlank_space, by simp [AllBlank], ?_⟩
    exact ⟨by decide, List.all_eq_true.1 (by decide)⟩

end Engine

end DiagramLint
