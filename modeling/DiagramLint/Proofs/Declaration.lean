/-
  Detection and the grammars: what is a declaration.

  No line is the declaration of two dialects, so the order of the tables does not matter to
  detection.  Detection reads the line in lower case, though, and a grammar reads it as it stands.
  They differ on the dotted capital U+0130, which a rule takes for an `i` and which is no `i` in
  lower case.

  * `hideDotted l`: the line with a mark in place of every dotted capital.

  `Opening.unique`: a text opens a diagram of one dialect at most.  `declared_eq_dialect_iff`: so a
  line declares the dialect whose declaration it is.
  `accepts_declaration_lowerCase_iff_hideDotted`: a line in lower case is a declaration if the line
  without its dotted capitals is one.
-/
import DiagramLint.Proofs.Detection

namespace DiagramLint

open Text

/-! ## One dialect at most -/

theorem Opening.take_two {d : Dialect} {s : List Char} (h : Opening d s) :
    ∃ w, (d, w) ∈ openingWords ∧ s.take 2 = w.toList.take 2 := by
  have hlen : ∀ p ∈ openingWords, 2 ≤ p.2.toList.length := by decide
  have htake : ∀ {d' : Dialect} {w : String}, (d', w) ∈ openingWords → ∀ r : List Char,
      (w.toList ++ r).take 2 = w.toList.take 2 := fun hw _ =>
    List.take_append_of_le_length (hlen _ hw)
  cases h with
  | word hw => exact ⟨_, hw, htake hw _⟩
  | direction hw => exact ⟨_, hw, htake hw _⟩
  | title =>
    have hw : (Dialect.pie, "pie") ∈ openingWords := by decide
    exact ⟨_, hw, htake hw _⟩

/-- **A text opens a diagram of one dialect at most**: its first two letters tell which. -/
theorem Opening.unique {d d' : Dialect} {s : List Char} (h : Opening d s) (h' : Opening d' s) :
    d = d' := by
  have table : ∀ p ∈ openingWords, ∀ q ∈ openingWords,
      p.2.toList.take 2 = q.2.toList.take 2 → p.1 = q.1 := by decide
  obtain ⟨w, hw, hs⟩ := h.take_two
  obtain ⟨w', hw', hs'⟩ := h'.take_two
  exact table _ hw _ hw' (hs.symm.trans hs')

variable {t t' : RuleTable} {ts : List RuleTable} {l m : Line}

theorem dialect_eq_of_accepts_declaration (ht : t ∈ Grammar.tables) (ht' : t' ∈ Grammar.tables)
    (h : t.declaration.accepts l = true) (h' : t'.declaration.accepts l = true) :
    t.dialect = t'.dialect :=
  ((accepts_declaration_iff ht).1 h).unique ((accepts_declaration_iff ht').1 h')

theorem eq_of_dialect_eq (ht : t ∈ Grammar.tables) (ht' : t' ∈ Grammar.tables)
    (h : t.dialect = t'.dialect) : t = t' := by
  have hd := Grammar.table?_eq_some_iff.2 ⟨ht, rfl⟩
  rw [h, Grammar.table?_eq_some_iff.2 ⟨ht', rfl⟩] at hd
  exact (Option.some.inj hd).symm

theorem dialect_ne_unknown (ht : t ∈ Grammar.tables) : t.dialect ≠ .unknown := by
  intro h
  cases Grammar.table?_eq_some_iff.2 ⟨ht, h⟩

/-- **A line declares the dialect whose declaration it is**, in whatever order the tables are
    tried. -/
theorem declared_eq_dialect_iff (hts : ∀ t ∈ ts, t ∈ Grammar.tables) (ht : t ∈ ts) :
    declared ts l = t.dialect ↔ t.declaration.accepts l = true := by
  unfold declared
  split
  · next t' hf =>
    have ht' := hts t' (List.mem_of_find?_eq_some hf)
    have ha := List.find?_some hf
    constructor
    · intro h
      rwa [← eq_of_dialect_eq ht' (hts t ht) h]
    · intro h
      exact dialect_eq_of_accepts_declaration ht' (hts t ht) ha h
  · next hf =>
    constructor
    · intro h
      exact absurd h.symm (dialect_ne_unknown (hts t ht))
    · intro h
      exact absurd h (List.find?_eq_none.1 hf t ht)

theorem declared_eq_unknown_iff (hts : ∀ t ∈ ts, t ∈ Grammar.tables) :
    declared ts l = .unknown ↔ ∀ t ∈ ts, t.declaration.accepts l = false := by
  constructor
  · intro h t ht
    rw [← Bool.not_eq_true, ← declared_eq_dialect_iff hts ht, h]
    exact Ne.symm (dialect_ne_unknown (hts t ht))
  · intro h
    have hf : ts.find? (·.declaration.accepts l) = none :=
      List.find?_eq_none.2 fun t ht => by simp [h t ht]
    rw [declared, hf]

theorem declared_congr (h : ∀ t ∈ ts, t.declaration.accepts l = t.declaration.accepts m) :
    declared ts l = declared ts m := by
  have hf : ts.find? (·.declaration.accepts l) = ts.find? (·.declaration.accepts m) := by
    induction ts with
    | nil => rfl
    | cons t ts ih =>
      obtain ⟨ht, h⟩ := List.forall_mem_cons.1 h
      rw [List.find?_cons, List.find?_cons, ht, ih h]
  rw [declared, declared, hf]

/-! ## The dotted capital -/

/-- A combining mark for the dotted capital U+0130, and every other character for itself. -/
def hideDot (c : Char) : Char := if c = '\u0130' then '\u0307' else c

/-- The line with a combining mark in place of every dotted capital, so that no rule takes one for
    an `i`. -/
def hideDotted (l : Line) : Line := l.map hideDot

theorem hideDotted_eq_self (h : '\u0130' ∉ l) : hideDotted l = l := by
  have hid : ∀ c ∈ l, hideDot c = id c := by
    intro c hc
    refine if_neg ?_
    rintro rfl
    exact h hc
  rw [hideDotted, List.map_congr_left hid, List.map_id]

theorem isBlank_hideDot (c : Char) : isBlank (hideDot c) = isBlank c := by
  unfold hideDot
  split
  · next hc =>
    subst hc
    rfl
  · rfl

theorem hideDot_beq_newline (c : Char) : (hideDot c == '\n') = (c == '\n') := by
  unfold hideDot
  split
  · next hc =>
    subst hc
    rfl
  · rfl

namespace Script

/-- Case is disregarded, and a mark stands for the dotted capital. -/
def hidden : Script := ofMap (fun c => fold (hideDot c))
  (fun c => by rw [isBlank_fold, isBlank_hideDot])
  (fun c => by rw [fold_beq_newline, hideDot_beq_newline])

theorem text_hidden (l : Line) : hidden.text l = (hideDotted l).map fold := by
  rw [hideDotted, List.map_map]
  exact List.map_eq_flatMap.symm

theorem write_hidden {c : Char} (hc : c ≠ '\u0130') : hidden.write c = lowFolded.write c := by
  show [fold (hideDot c)] = _
  rw [hideDot, if_neg hc, write_lowFolded hc]

theorem agrees_hidden_lowFolded : hidden.Agrees lowFolded := by
  intro c y ys h hy
  by_cases hc : c = '\u0130'
  · -- no plain letter is written for it
    subst hc
    cases h
    cases hy
  · rw [write_hidden hc] at h
    obtain ⟨-, rfl, rfl⟩ := ne_of_isPlain_lowFold h hy
    exact .inl ⟨rfl, h⟩

theorem agrees_lowFolded_hidden : lowFolded.Agrees hidden := by
  intro c y ys h hy
  obtain ⟨hc, rfl, rfl⟩ := ne_of_isPlain_lowFold h hy
  exact .inl ⟨rfl, (write_hidden hc).trans h⟩

end Script

/-- **A line in lower case is a declaration if the line without its dotted capitals is one.** -/
theorem accepts_declaration_lowerCase_iff_hideDotted (ht : t ∈ Grammar.tables) :
    t.declaration.accepts (lowerCase l) = true ↔ t.declaration.accepts (hideDotted l) = true := by
  rw [accepts_declaration_lowerCase_iff ht, accepts_declaration_iff ht, ← Script.text_lowFolded,
    ← Script.text_hidden]
  exact ⟨Script.agrees_lowFolded_hidden.opening, Script.agrees_hidden_lowFolded.opening⟩

/-! ## Detection -/

variable {ls : List Line}

theorem detect_of_find? (h : ls.find? isMeaningful = some l) :
    detect ls = declared Grammar.tables (lowerCase (trim l)) := by
  rw [detect, detectAmong, h]

/-- Detection reads the first line that counts without its dotted capitals. -/
theorem detect_eq_declared_hideDotted (h : ls.find? isMeaningful = some l) :
    detect ls = declared Grammar.tables (hideDotted (trim l)) := by
  rw [detect_of_find? h]
  refine declared_congr fun t ht => ?_
  rw [Bool.eq_iff_iff]
  exact accepts_declaration_lowerCase_iff_hideDotted ht

/-- **Detection and the grammars agree, the dotted capital apart.**  A diagram is of the dialect of a
    grammar if the declaration of the grammar accepts the first line that counts, read with no dotted
    capital U+0130 for an `i`; then it accepts the line as it stands as well.  So the two agree on
    all lines without a dotted capital, and a diagram has no dialect if no grammar accepts the line
    read that way. -/
theorem detect_agrees_with_grammars (h : ls.find? isMeaningful = some l) :
    (∀ t ∈ Grammar.tables, detect ls = t.dialect ↔
      t.declaration.accepts (hideDotted (trim l)) = true) ∧
    (∀ t ∈ Grammar.tables, detect ls = t.dialect → t.declaration.accepts (trim l) = true) ∧
    ('\u0130' ∉ trim l →
      detect ls = declared Grammar.tables (trim l) ∧
      ∀ t ∈ Grammar.tables, detect ls = t.dialect ↔ t.declaration.accepts (trim l) = true) ∧
    (detect ls = .unknown ↔
      ∀ t ∈ Grammar.tables, t.declaration.accepts (hideDotted (trim l)) = false) := by
  have hts : ∀ t ∈ Grammar.tables, t ∈ Grammar.tables := fun _ => id
  refine ⟨fun t ht => ?_, fun t ht hd => ?_, fun hdot => ?_, ?_⟩
  · rw [detect_eq_declared_hideDotted h, declared_eq_dialect_iff hts ht]
  · rw [detect_of_find? h, declared_eq_dialect_iff hts ht] at hd
    exact accepts_of_accepts_lowerCase ht hd
  · have hd := detect_eq_declared_hideDotted h
    rw [hideDotted_eq_self hdot] at hd
    refine ⟨hd, fun t ht => ?_⟩
    rw [hd, declared_eq_dialect_iff hts ht]
  · rw [detect_eq_declared_hideDotted h, declared_eq_unknown_iff hts]

/-- A dotted capital may stand in a title. -/
theorem detect_agrees_with_grammars_title :
    detect ["  PIE title \u0130".toList] = .pie ∧
      Grammar.pie.declaration.accepts "PIE title \u0130".toList = true := by
  have h : ["  PIE title \u0130".toList].find? isMeaningful = some "  PIE title \u0130".toList := by
    decide +kernel
  have hpie : Grammar.pie ∈ Grammar.tables := by simp [Grammar.tables]
  have htrim : trim "  PIE title \u0130".toList = "PIE title \u0130".toList := by decide +kernel
  obtain ⟨hiff, himp, -, -⟩ := detect_agrees_with_grammars h
  have hd := (hiff _ hpie).2 (by decide +kernel)
  exact ⟨hd, htrim ▸ himp _ hpie hd⟩

/-- In a word a dotted capital makes the difference: the rule takes it for an `i`, and detection does
    not. -/
theorem detect_ne_of_dotted_capital :
    detect ["p\u0130e".toList] = .unknown ∧
      Grammar.pie.declaration.accepts (trim "p\u0130e".toList) = true := by
  decide +kernel

end DiagramLint
