/-
  The language of detection.

  Of every dialect the texts are known by their first line that counts, without its surrounding
  blanks and in small letters.

  * `keyFold c`: the small letter for a capital of ASCII, for the dotless i and for the long s;
  * `Declares d s`: the folded line `s` is a word of the dialect `d`, or a word of a flowchart and a
    direction, or that of a pie chart and a title.

  `opening_iff_declares`: what ends in no blank is an opening if it is one of these.
  `detectAmong_eq_ite`: the order of the tables does not matter, nor their number.
  `detect_language`: the lines of each dialect, exactly.
-/
import DiagramLint.Proofs.Declaration

namespace DiagramLint

open Text

variable {d : Dialect} {t : RuleTable} {ts : List RuleTable} {l : Line} {ls : List Line}

/-! ## The order of the tables -/

/-- A table that is left out takes its dialect with it, and nothing else. -/
theorem declared_eq_ite (hts : ∀ t ∈ ts, t ∈ Grammar.tables) : declared ts l =
    if ts.any (·.dialect == declared Grammar.tables l) then declared Grammar.tables l
    else .unknown := by
  have hiff : ∀ t ∈ ts, declared Grammar.tables l = t.dialect ↔ t.declaration.accepts l = true :=
    fun t ht => declared_eq_dialect_iff (fun _ => id) (hts t ht)
  split
  · next h =>
    obtain ⟨t, ht, hd⟩ := List.any_eq_true.1 h
    rw [beq_iff_eq] at hd
    rw [← hd, declared_eq_dialect_iff hts ht, ← hiff t ht, hd]
  · next h =>
    refine (declared_eq_unknown_iff hts).2 fun t ht => Bool.eq_false_iff.2 fun ha => h ?_
    exact List.any_eq_true.2 ⟨t, ht, beq_iff_eq.2 ((hiff t ht).2 ha).symm⟩

theorem detectAmong_eq_ite (hts : ∀ t ∈ ts, t ∈ Grammar.tables) (ls : List Line) :
    detectAmong ts ls = if ts.any (·.dialect == detect ls) then detect ls else .unknown := by
  unfold detect detectAmong
  cases ls.find? isMeaningful with
  | none => exact (ite_self _).symm
  | some l => exact declared_eq_ite hts

/-- **The order in which detection tries the tables does not matter.**  No line is the declaration
    of two grammars, as it stands or in lower case.  So detection with some of the tables, in
    whatever order and however often they are listed, finds the dialect that it finds with all of
    them, if the table of that dialect is listed, and none otherwise. -/
theorem detection_order :
    (∀ l, ∀ t ∈ Grammar.tables, ∀ t' ∈ Grammar.tables,
      (t.declaration.accepts l = true ∨ t.declaration.accepts (lowerCase l) = true) →
      (t'.declaration.accepts l = true ∨ t'.declaration.accepts (lowerCase l) = true) → t = t') ∧
    ∀ ts ls, (∀ t ∈ ts, t ∈ Grammar.tables) →
      ((∃ t ∈ ts, t.dialect = detect ls) → detectAmong ts ls = detect ls) ∧
      ((∀ t ∈ ts, t.dialect ≠ detect ls) → detectAmong ts ls = .unknown) := by
  constructor
  · intro l t ht t' ht' h h'
    have ha := h.elim id (accepts_of_accepts_lowerCase ht)
    have ha' := h'.elim id (accepts_of_accepts_lowerCase ht')
    exact eq_of_dialect_eq ht ht' (dialect_eq_of_accepts_declaration ht ht' ha ha')
  · intro ts ls hts
    rw [detectAmong_eq_ite hts]
    refine ⟨fun h => if_pos ?_, fun h => if_neg ?_⟩
    · simpa using h
    · simpa using h

/-- A sequence diagram with a long s is no other diagram, and is found by its table wherever it is
    listed, but not without it. -/
theorem detection_order_sequence :
    let ls := ["\u017FequenceDiagram".toList]
    (∀ t ∈ Grammar.tables, t.declaration.accepts "\u017FequenceDiagram".toList = true →
      Grammar.sequence = t) ∧
    detectAmong [Grammar.states, Grammar.sequence, Grammar.sequence] ls = .sequence ∧
    detectAmong [Grammar.states, Grammar.journey] ls = .unknown := by
  intro ls
  obtain ⟨hunique, horder⟩ := detection_order
  have hd : detect ls = .sequence := by decide +kernel
  have hin : ∀ t ∈ [Grammar.states, Grammar.sequence, Grammar.sequence], t ∈ Grammar.tables := by
    simp [Grammar.tables]
  have hout : ∀ t ∈ [Grammar.states, Grammar.journey], t ∈ Grammar.tables := by
    simp [Grammar.tables]
  refine ⟨fun t ht h => ?_, ?_, ?_⟩
  · exact hunique _ Grammar.sequence (by simp [Grammar.tables]) t ht (.inl (by decide +kernel))
      (.inl h)
  · rw [← hd]
    exact (horder _ ls hin).1 ⟨Grammar.sequence, by simp, hd.symm⟩
  · refine (horder _ ls hout).2 ?_
    rw [hd]
    exact List.forall_mem_cons.2 ⟨by decide, List.forall_mem_singleton.2 (by decide)⟩

/-! ## Folded lines -/

/-- The small letter of ASCII for a capital of ASCII, for the dotless i U+0131 and for the long s
    U+017F; every other character for itself. -/
def keyFold (c : Char) : Char :=
  if c = '\u0131' then 'i' else if c = '\u017F' then 's' else c.toLower

/-- The folded line, trimmed, is a declaration of the dialect. -/
inductive Declares : Dialect → List Char → Prop
  | word {d w} : (d, w) ∈ openingWords → Declares d w.toList
  | direction {w b v} : (.flowchart, w) ∈ openingWords → AllBlank b → v ∈ directions →
      Declares .flowchart (w.toList ++ (b ++ v.toList))
  | title {b b' r} : AllBlank b → b' ≠ [] → AllBlank b' → r ≠ [] → (∀ c ∈ r, c ≠ '\n') →
      Declares .pie ("pie".toList ++ (b ++ ("title".toList ++ (b' ++ r))))

/-- The text does not end in a blank. -/
def EndsInInk (s : List Char) : Prop := ∀ c ∈ s.getLast?, isBlank c = false

variable {s a b r : List Char}

theorem EndsInInk.eq_nil (h : EndsInInk (a ++ b)) (hb : AllBlank b) : b = [] := by
  refine Classical.byContradiction fun hne => ?_
  have hlast : b.getLast hne ∈ (a ++ b).getLast? := by
    rw [List.getLast?_append, List.getLast?_eq_some_getLast hne]
    rfl
  have hblank := hb _ (List.getLast_mem hne)
  rw [h _ hlast] at hblank
  cases hblank

/-- A line without blanks at its end has none behind its opening. -/
theorem opening_iff_declares (h : EndsInInk s) : Opening d s ↔ Declares d s := by
  have hnil : AllBlank [] := by simp [AllBlank]
  constructor
  · intro ho
    cases ho with
    | word hw hb =>
      obtain rfl := h.eq_nil hb
      rw [List.append_nil]
      exact .word hw
    | @direction w v b b' hw hb hv hb' =>
      have h' : EndsInInk ((w.toList ++ (b ++ v.toList)) ++ b') := by simpa using h
      obtain rfl := h'.eq_nil hb'
      rw [List.append_nil]
      exact .direction hw hb hv
    | @title b b' _ hb hne hb' ht =>
      obtain ⟨r, b'', hr, hn, hb'', rfl⟩ := ht
      have h' : EndsInInk (("pie".toList ++ (b ++ ("title".toList ++ (b' ++ r)))) ++ b'') := by
        simpa using h
      obtain rfl := h'.eq_nil hb''
      rw [List.append_nil]
      exact .title hb hne hb' hr hn
  · intro hd
    cases hd with
    | word hw => simpa using Opening.word hw hnil
    | direction hw hb hv => simpa using Opening.direction hw hb hv hnil
    | title hb hne hb' hr hn =>
      exact .title hb hne hb' ⟨_, [], hr, hn, hnil, (List.append_nil _).symm⟩

/-! ## Two ways to fold -/

/-- The character stands in no word of an opening, and is not blank. -/
def isForeign (x : Char) : Bool :=
  !isBlank x && ("title" :: openingWords.map (·.2) ++ directions).all fun w => x ∉ w.toList

section

variable {φ ψ : Char → Char} {x : Char}

theorem map_eq_of_notMem (hφ : ∀ c, φ c ≠ x → ψ c = φ c) (h : l.map φ = a) (ha : x ∉ a) :
    l.map ψ = a := by
  subst h
  refine List.map_congr_left fun c hc => hφ c ?_
  rintro rfl
  exact ha (List.mem_map_of_mem hc)

/-- **Lines that are folded in two ways open the same diagrams**, if all characters but one are
    folded alike, and that one stands in no opening. -/
theorem Opening.map_of_forall (hx : isForeign x = true) (hφ : ∀ c, φ c ≠ x → ψ c = φ c)
    (ht : ∀ m : Line, IsTitle (m.map φ) → IsTitle (m.map ψ)) (h : Opening d (l.map φ)) :
    Opening d (l.map ψ) := by
  simp only [isForeign, Bool.and_eq_true, Bool.not_eq_true', List.all_append, List.all_cons,
    List.all_eq_true, List.forall_mem_map, decide_eq_true_eq] at hx
  obtain ⟨hblank, ⟨htitle, hword⟩, hdir⟩ := hx
  have hb : ∀ {b}, AllBlank b → x ∉ b := fun h hxb => by
    rw [h x hxb] at hblank
    cases hblank
  generalize hs : l.map φ = s at h
  cases h with
  | @word _ w b hw hb₁ =>
    have hn : x ∉ w.toList ++ b := by simp [hword _ hw, hb hb₁]
    rw [map_eq_of_notMem hφ hs hn]
    exact .word hw hb₁
  | @direction w v b b' hw hb₁ hv hb₂ =>
    have hn : x ∉ w.toList ++ (b ++ (v.toList ++ b')) := by
      simp [hword _ hw, hb hb₁, hdir _ hv, hb hb₂]
    rw [map_eq_of_notMem hφ hs hn]
    exact .direction hw hb₁ hv hb₂
  | @title b b' r hb₁ hne hb₂ hr =>
    have hpie : x ∉ "pie".toList := hword (.pie, "pie") (by decide)
    have hn : x ∉ "pie".toList ++ (b ++ ("title".toList ++ b')) := by
      simp only [List.mem_append, not_or]
      exact ⟨hpie, hb hb₁, htitle, hb hb₂⟩
    have hs' : l.map φ = "pie".toList ++ (b ++ ("title".toList ++ b')) ++ r := by
      simp only [List.append_assoc, hs]
    obtain ⟨l₁, l₂, rfl, h₁, rfl⟩ := List.map_eq_append_iff.1 hs'
    rw [List.map_append, map_eq_of_notMem hφ h₁ hn]
    simp only [List.append_assoc]
    exact .title hb₁ hne hb₂ (ht l₂ hr)

end

/-- The Kelvin sign apart, characters are folded as detection sees them. -/
theorem keyFold_eq_lowFold {c : Char} (hc : c ≠ '\u212A') : keyFold c = lowFold c := by
  by_cases hd : c = '\u0130'
  · subst hd
    decide
  · rw [lowFold, if_neg hd, fold, keyFold]
    simp [hd, hc]

theorem isBlank_keyFold (c : Char) : isBlank (keyFold c) = isBlank c := by
  by_cases hc : c = '\u212A'
  · subst hc
    decide
  · rw [keyFold_eq_lowFold hc]
    exact Script.lowFolded.isBlank_of_mem c _ (List.mem_singleton.2 rfl)

theorem keyFold_beq_newline (c : Char) : (keyFold c == '\n') = (c == '\n') := by
  by_cases hc : c = '\u212A'
  · subst hc
    decide
  · rw [keyFold_eq_lowFold hc]
    exact Script.lowFolded.newline_of_mem c _ (List.mem_singleton.2 rfl)

theorem isTitle_map_keyFold_iff : IsTitle (l.map keyFold) ↔ IsTitle (l.map lowFold) := by
  have hkey : (Script.ofMap keyFold isBlank_keyFold keyFold_beq_newline).text l = l.map keyFold :=
    List.map_eq_flatMap.symm
  rw [← hkey, ← Script.text_lowFolded, Script.isTitle_text_iff, Script.isTitle_text_iff]

/-- The Kelvin sign and its small letter stand in no opening, so it does not matter whether the one
    is taken for the other. -/
theorem opening_map_keyFold_iff : Opening d (l.map keyFold) ↔ Opening d (l.map lowFold) := by
  have hkelvin : keyFold '\u212A' = '\u212A' ∧ lowFold '\u212A' = 'k' := by decide
  constructor
  · refine Opening.map_of_forall (x := '\u212A') (by decide) (fun c hc => ?_)
      fun _ => isTitle_map_keyFold_iff.1
    refine (keyFold_eq_lowFold ?_).symm
    rintro rfl
    exact hc hkelvin.1
  · refine Opening.map_of_forall (x := 'k') (by decide) (fun c hc => ?_)
      fun _ => isTitle_map_keyFold_iff.2
    refine keyFold_eq_lowFold ?_
    rintro rfl
    exact hc hkelvin.2

/-! ## The language -/

theorem endsInInk_map_keyFold_trim (l : Line) : EndsInInk ((trim l).map keyFold) := by
  intro c hc
  rw [List.getLast?_map] at hc
  obtain ⟨a, ha, rfl⟩ := Option.map_eq_some_iff.1 hc
  have hedge := isEdge_eq_false_of_mem_getLast?_trim ha
  rw [isEdge, Bool.or_eq_false_iff] at hedge
  rw [isBlank_keyFold, hedge.1]

theorem accepts_lowerCase_trim_iff (ht : t ∈ Grammar.tables) :
    t.declaration.accepts (lowerCase (trim l)) = true ↔
      Declares t.dialect ((trim l).map keyFold) := by
  rw [accepts_declaration_lowerCase_iff ht, ← opening_map_keyFold_iff,
    opening_iff_declares (endsInInk_map_keyFold_trim l)]

theorem exists_mem_tables (hd : d ≠ .unknown) : ∃ t ∈ Grammar.tables, t.dialect = d := by
  obtain ⟨t, ht⟩ : ∃ t, Grammar.table? d = some t := by
    cases d <;> first | exact absurd rfl hd | exact ⟨_, rfl⟩
  exact ⟨t, Grammar.table?_eq_some_iff.1 ht⟩

theorem Declares.ne_unknown (h : Declares d s) : d ≠ .unknown := by
  rintro rfl
  cases h with
  | word hw => exact absurd hw (by simp [openingWords])

/-- The first line that counts is of a dialect if it declares it. -/
theorem detect_eq_iff_declares (hl : ls.find? isMeaningful = some l) (hd : d ≠ .unknown) :
    detect ls = d ↔ Declares d ((trim l).map keyFold) := by
  obtain ⟨t, ht, rfl⟩ := exists_mem_tables hd
  rw [detect_of_find? hl, declared_eq_dialect_iff (fun _ => id) ht, accepts_lowerCase_trim_iff ht]

/-- **The language of detection.**  A diagram without a line that counts has no dialect.  Otherwise
    the first line that counts decides, whatever follows it: the diagram is of the dialect that this
    line declares, trimmed and folded, and of none if it declares none. -/
theorem detect_language :
    (∀ ls, (∀ l ∈ ls, isMeaningful l = false) → detect ls = .unknown) ∧
    ∀ before l after, (∀ m ∈ before, isMeaningful m = false) → isMeaningful l = true →
      (∀ d, d ≠ .unknown →
        (detect (before ++ l :: after) = d ↔ Declares d ((trim l).map keyFold))) ∧
      (detect (before ++ l :: after) = .unknown ↔ ∀ d, ¬ Declares d ((trim l).map keyFold)) := by
  constructor
  · intro ls h
    have hf : ls.find? isMeaningful = none := List.find?_eq_none.2 fun l hl => by simp [h l hl]
    rw [detect, detectAmong, hf]
  · intro before l after hb hl
    have hb' : before.find? isMeaningful = none :=
      List.find?_eq_none.2 fun m hm => by simp [hb m hm]
    have hf : (before ++ l :: after).find? isMeaningful = some l := by
      rw [List.find?_append, hb', Option.none_or, List.find?_cons_of_pos hl]
    refine ⟨fun d => detect_eq_iff_declares hf, fun hu d hd => ?_, fun h => ?_⟩
    · have hd' := (detect_eq_iff_declares hf hd.ne_unknown).2 hd
      exact hd.ne_unknown (hd'.symm.trans hu)
    · by_cases hu : detect (before ++ l :: after) = .unknown
      · exact hu
      · exact absurd ((detect_eq_iff_declares hf hu).1 rfl) (h _)

/-- A flowchart with a direction, behind a comment and a byte order mark; and a comment by itself. -/
theorem detect_language_flowchart :
    detect ["%% note".toList, " \uFEFFFlowChart  TD ".toList, "pie".toList] = .flowchart ∧
      detect ["%% pie".toList] = .unknown := by
  obtain ⟨hnone, hfirst⟩ := detect_language
  have hcomment : ∀ s ∈ ["%% note".toList], isMeaningful s = false :=
    List.forall_mem_singleton.2 (by decide +kernel)
  have hcomment' : ∀ s ∈ ["%% pie".toList], isMeaningful s = false :=
    List.forall_mem_singleton.2 (by decide +kernel)
  have hdecl : Declares .flowchart ((trim " \uFEFFFlowChart  TD ".toList).map keyFold) := by
    have hfold : (trim " \uFEFFFlowChart  TD ".toList).map keyFold =
        "flowchart".toList ++ ("  ".toList ++ "td".toList) := by decide +kernel
    rw [hfold]
    exact .direction (by decide) (List.all_eq_true.1 (by decide +kernel)) (by decide)
  obtain ⟨hd, -⟩ := hfirst ["%% note".toList] " \uFEFFFlowChart  TD ".toList ["pie".toList]
    hcomment (by decide +kernel)
  exact ⟨(hd .flowchart (by decide)).2 hdecl, hnone _ hcomment'⟩

end DiagramLint
