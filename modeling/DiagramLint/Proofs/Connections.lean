/-
  Lines that connect two words.

  A connection is a word, a connector and another word.  The first word may stop early: where a
  connector begins with a letter, it may be taken out of the word, and so a lone word may be read as
  a connection.

  * `wordRun l` and `behindRun l`: the word characters that a line begins with, and what follows;
  * `Joins w s`: the text `s` goes on with the connector `w` and a word;
  * `Carved w l`: the connector `w` begins inside the first word of the line.

  `starts_connection_iff`: a connection is found behind the whole first word, or by a connector that
  begins with a word character inside it.  `carved_iff`: what such a connector asks of the line.
-/
import DiagramLint.Proofs.Words

namespace DiagramLint

open Text

/-! ## The first word of a line -/

/-- The word characters that the line begins with. -/
def wordRun (l : Line) : List Char := l.takeWhile isWordChar

/-- What follows the word characters that the line begins with. -/
def behindRun (l : Line) : List Char := l.dropWhile isWordChar

/-- The text goes on with the connector, in whatever case and with blanks around it, and a word. -/
def Joins (w : String) (s : List Char) : Prop :=
  ∃ b v r, AllBlank b ∧ v.map fold = w.toList.map fold ∧ s = b ++ (v ++ r) ∧
    BeginsWord (r.dropWhile isBlank)

/-- The connector begins inside the first word of the line, behind its first character or later. -/
def Carved (w : String) (l : Line) : Prop :=
  ∃ u x, u ≠ [] ∧ x ≠ [] ∧ wordRun l = u ++ x ∧ Joins w (x ++ behindRun l)

/-- The connector begins with a word character. -/
def opensInWord (w : String) : Bool := w.toList.head?.any isWordChar

variable {l : Line} {u x s r : List Char} {w : String} {ws : List String} {a c : Char}

theorem wordRun_append_behindRun (l : Line) : wordRun l ++ behindRun l = l :=
  List.takeWhile_append_dropWhile

theorem isWordChar_of_mem_wordRun (h : c ∈ wordRun l) : isWordChar c = true :=
  List.all_eq_true.1 List.all_takeWhile c h

theorem not_beginsWord_behindRun (l : Line) : ¬ BeginsWord (behindRun l) := by
  rintro ⟨c, hc, hw⟩
  have hhead := List.head?_dropWhile_not isWordChar l
  rw [← behindRun, Option.mem_def.1 hc] at hhead
  simp [hw] at hhead

/-- Word characters at the beginning of a line are the first word or a part of it. -/
theorem exists_wordRun_eq_append (hu : ∀ c ∈ u, isWordChar c = true) (h : l = u ++ s) :
    ∃ x, wordRun l = u ++ x ∧ s = x ++ behindRun l := by
  refine ⟨s.takeWhile isWordChar, ?_, ?_⟩
  · rw [h, wordRun, List.takeWhile_append_of_pos hu]
  · rw [h, behindRun, List.dropWhile_append_of_pos hu, List.takeWhile_append_dropWhile]

/-! ## A connection, wherever its first word stops -/

namespace Pattern

theorem starts_connector_iff (hn : '\n' ∉ s) :
    (Grammar.blanks ++ (.anyOf ws ++ (Grammar.blanks ++ (Grammar.word ++ Grammar.rest)))).starts
      .caseless s = true ↔ ∃ w ∈ ws, Joins w s := by
  simp only [starts_blanks_append_iff (q := .anyOf ws ++ _), starts_anyOf_append_iff,
    starts_append_iff (p := .text _), consumes_word_iff, Joins]
  constructor
  · rintro ⟨b, _, hb, rfl, w, hw, r, ⟨v, hv, rfl⟩, hr⟩
    have hnr : '\n' ∉ r := fun h => hn (by simp [h])
    exact ⟨w, hw, b, v, r, hb, hv, rfl, (starts_blanks_word_rest_iff hnr).1 hr⟩
  · rintro ⟨w, hw, b, v, r, hb, hv, rfl, hr⟩
    have hnr : '\n' ∉ r := fun h => hn (by simp [h])
    exact ⟨b, v ++ r, hb, rfl, w, hw, r, ⟨v, hv, rfl⟩, (starts_blanks_word_rest_iff hnr).2 hr⟩

theorem starts_connection_iff_exists (ht : trim l = l) (hn : '\n' ∉ l) :
    (Grammar.connection ws).starts .caseless l = true ↔ ∃ u s, u ≠ [] ∧
      (∀ c ∈ u, isWordChar c = true) ∧ l = u ++ s ∧ ∃ w ∈ ws, Joins w s := by
  simp only [Grammar.connection, starts_append_assoc]
  rw [starts_blanks_append_of_trim ht, Grammar.word, starts_many1_append_iff]
  refine exists₂_congr fun u s => and_congr_right fun _ => and_congr_right fun _ =>
    and_congr_right fun hl => ?_
  exact starts_connector_iff fun hs => hn (by simp [hl, hs])

end Pattern

/-! ## Connectors that begin at a word character -/

/-- No blanks stand before a word character, so the connector does. -/
theorem joins_cons_iff (hc : isWordChar c = true) : Joins w (c :: s) ↔ ∃ v r,
    v.map fold = w.toList.map fold ∧ c :: s = v ++ r ∧ BeginsWord (r.dropWhile isBlank) := by
  constructor
  · rintro ⟨b, v, r, hb, hv, he, hr⟩
    cases b with
    | nil => exact ⟨v, r, hv, he, hr⟩
    | cons d b =>
      injection he with hd
      have hblank := hb d List.mem_cons_self
      rw [← hd, isBlank_eq_false_of_isWordChar hc] at hblank
      cases hblank
  · rintro ⟨v, r, hv, he, hr⟩
    exact ⟨[], v, r, by simp [AllBlank], hv, he, hr⟩

theorem Joins.exists_toList_eq_cons (h : Joins w (c :: s)) (hc : isWordChar c = true)
    (hw : w ≠ "") : ∃ a z, w.toList = a :: z ∧ fold c = fold a := by
  obtain ⟨v, r, hv, he, -⟩ := (joins_cons_iff hc).1 h
  cases v with
  | nil =>
    have hnil : w.toList = [] := List.map_eq_nil_iff.1 hv.symm
    exact absurd (String.toList_eq_nil_iff.1 hnil) hw
  | cons d v =>
    injection he with hd
    obtain ⟨a, z, haz, had, -⟩ := List.map_eq_cons_iff.1 hv.symm
    exact ⟨a, z, haz, by rw [hd, had]⟩

/-- **A connection is found behind the whole first word, or by a connector that begins inside
    it.** -/
theorem starts_connection_iff (hws : ∀ w ∈ ws, w ≠ "") (ht : trim l = l) (hn : '\n' ∉ l) :
    (Grammar.connection ws).starts .caseless l = true ↔ wordRun l ≠ [] ∧
      ((∃ w ∈ ws, Joins w (behindRun l)) ∨ ∃ w ∈ ws.filter opensInWord, Carved w l) := by
  rw [Pattern.starts_connection_iff_exists ht hn]
  constructor
  · rintro ⟨u, s, hne, hu, hl, w, hw, hj⟩
    obtain ⟨x, hx, rfl⟩ := exists_wordRun_eq_append hu hl
    refine ⟨by simp [hx, hne], ?_⟩
    cases x with
    | nil => exact .inl ⟨w, hw, hj⟩
    | cons c x =>
      have hc : isWordChar c = true := isWordChar_of_mem_wordRun (l := l) (by rw [hx]; simp)
      obtain ⟨a, z, haz, hca⟩ := hj.exists_toList_eq_cons hc (hws w hw)
      have ho : opensInWord w = true := by
        rw [opensInWord, haz]
        exact (isWordChar_eq_of_fold_eq hca).symm.trans hc
      exact .inr ⟨w, List.mem_filter.2 ⟨hw, ho⟩, u, c :: x, hne, List.cons_ne_nil _ _, hx, hj⟩
  · rintro ⟨hne, ⟨w, hw, hj⟩ | ⟨w, hw, u, x, hu, -, hx, hj⟩⟩
    · exact ⟨wordRun l, behindRun l, hne, fun _ => isWordChar_of_mem_wordRun,
        (wordRun_append_behindRun l).symm, w, hw, hj⟩
    · refine ⟨u, x ++ behindRun l, hu, fun c hc => ?_, ?_, w, (List.mem_filter.1 hw).1, hj⟩
      · exact isWordChar_of_mem_wordRun (hx ▸ List.mem_append_left x hc)
      · rw [← List.append_assoc, ← hx, wordRun_append_behindRun]

/-- **A connector that begins inside the first word** takes a character of it, and goes on with the
    word or behind it. -/
theorem carved_iff {z : List Char} (hw : w.toList = a :: z) : Carved w l ↔ ∃ u c x, u ≠ [] ∧
    wordRun l = u ++ c :: x ∧ c ∈ mates a ∧ ∃ v r, v.map fold = z.map fold ∧
      x ++ behindRun l = v ++ r ∧ BeginsWord (r.dropWhile isBlank) := by
  have hmem : ∀ {u c x}, wordRun l = u ++ c :: x → isWordChar c = true := fun hl =>
    isWordChar_of_mem_wordRun (l := l) (by rw [hl]; simp)
  constructor
  · rintro ⟨u, x, hu, hx, hl, hj⟩
    obtain ⟨c, x, rfl⟩ := List.exists_cons_of_ne_nil hx
    obtain ⟨v, r, hv, he, hr⟩ := (joins_cons_iff (hmem hl)).1 hj
    rw [hw, List.map_cons] at hv
    obtain ⟨d, v, rfl, hd, hvz⟩ := List.map_eq_cons_iff.1 hv
    injection he with hcd he
    subst hcd
    exact ⟨u, c, x, hu, hl, mem_mates_iff.2 hd, v, r, hvz, he, hr⟩
  · rintro ⟨u, c, x, hu, hl, hc, v, r, hv, he, hr⟩
    refine ⟨u, c :: x, hu, List.cons_ne_nil _ _, hl, (joins_cons_iff (hmem hl)).2
      ⟨c :: v, r, ?_, congrArg (c :: ·) he, hr⟩⟩
    rw [hw, List.map_cons, List.map_cons, mem_mates_iff.1 hc, hv]

/-- The first word of the line has two characters or more, and ends in one of the letters. -/
def EndsIn (letters : List Char) (l : Line) : Prop :=
  2 ≤ (wordRun l).length ∧ ∃ c ∈ (wordRun l).getLast?, c ∈ letters

theorem endsIn_iff {letters : List Char} :
    EndsIn letters l ↔ ∃ u c, u ≠ [] ∧ wordRun l = u ++ [c] ∧ c ∈ letters := by
  constructor
  · rintro ⟨hlen, c, hc, ha⟩
    obtain ⟨u, hu⟩ := List.getLast?_eq_some_iff.1 hc
    refine ⟨u, c, ?_, hu, ha⟩
    rintro rfl
    rw [hu] at hlen
    exact absurd hlen (by simp)
  · rintro ⟨u, c, hu, hl, ha⟩
    have := List.length_pos_iff.2 hu
    refine ⟨?_, c, by simp [hl], ha⟩
    rw [hl, List.length_append, List.length_singleton]
    omega

/-- The text goes on with blanks, one or more, and a word. -/
def SpacedWord (s : List Char) : Prop := ∃ b r, b ≠ [] ∧ AllBlank b ∧ s = b ++ r ∧ BeginsWord r

theorem spacedWord_iff (h : ¬ BeginsWord s) : SpacedWord s ↔ BeginsWord (s.dropWhile isBlank) := by
  constructor
  · rintro ⟨b, r, -, hb, rfl, hr⟩
    rwa [List.dropWhile_append_of_pos hb, hr.dropWhile_isBlank]
  · intro hd
    refine ⟨s.takeWhile isBlank, s.dropWhile isBlank, fun hb => h ?_,
      List.all_eq_true.1 List.all_takeWhile, List.takeWhile_append_dropWhile.symm, hd⟩
    rwa [← List.takeWhile_append_dropWhile (p := isBlank) (l := s), hb, List.nil_append]

/-- A connector of one letter may stand between two characters of the first word, or end it. -/
theorem carved_letter_iff (hw : w.toList = [a]) : Carved w l ↔
    (∃ i, 1 ≤ i ∧ ∃ h : i + 1 < (wordRun l).length, (wordRun l)[i] ∈ mates a) ∨
      EndsIn (mates a) l ∧ SpacedWord (behindRun l) := by
  have hend := not_beginsWord_behindRun l
  rw [carved_iff hw, endsIn_iff, spacedWord_iff hend]
  constructor
  · rintro ⟨u, c, x, hu, hl, hc, v, r, hv, he, hr⟩
    obtain rfl : v = [] := List.map_eq_nil_iff.1 hv
    obtain rfl : x ++ behindRun l = r := he
    cases x with
    | nil => exact .inr ⟨⟨u, c, hu, hl, hc⟩, hr⟩
    | cons d x =>
      exact .inl ⟨u.length, List.length_pos_iff.2 hu, by simp [hl], by simpa [hl] using hc⟩
  · rintro (⟨i, hi, hlt, hc⟩ | ⟨⟨u, c, hu, hl, hc⟩, hr⟩)
    · have hi' : i < (wordRun l).length := by omega
      have hl : wordRun l = (wordRun l).take i ++ (wordRun l)[i] :: (wordRun l).drop (i + 1) := by
        rw [← List.drop_eq_getElem_cons hi', List.take_append_drop]
      obtain ⟨d, x, hx⟩ : ∃ d x, (wordRun l).drop (i + 1) = d :: x :=
        ⟨_, _, List.drop_eq_getElem_cons hlt⟩
      have hd : isWordChar d = true :=
        isWordChar_of_mem_wordRun (l := l) (List.mem_of_mem_drop (hx ▸ List.mem_cons_self))
      refine ⟨_, _, _, ?_, hl, hc, [], _, rfl, rfl, ?_⟩
      · rw [← List.length_pos_iff, List.length_take]
        omega
      · have hb : BeginsWord (d :: (x ++ behindRun l)) := beginsWord_cons.2 hd
        rw [hx]
        show BeginsWord ((d :: (x ++ behindRun l)).dropWhile isBlank)
        rwa [hb.dropWhile_isBlank]
    · exact ⟨u, c, [], hu, hl, hc, [], _, rfl, rfl, hr⟩

/-- A connector of a letter and marks takes the letter from the end of the first word. -/
theorem carved_marks_iff {m : Char} {z : List Char} (hw : w.toList = a :: m :: z)
    (hm : isWordChar m = false) (hz : (m :: z).all isSingle = true) : Carved w l ↔
      EndsIn (mates a) l ∧ ∃ r, behindRun l = m :: z ++ r ∧ BeginsWord (r.dropWhile isBlank) := by
  rw [carved_iff hw, endsIn_iff]
  simp only [map_fold_eq_map_fold_iff hz, exists_and_left, exists_eq_left]
  constructor
  · rintro ⟨u, hu, c, x, hl, hc, r, he, hr⟩
    cases x with
    | nil => exact ⟨⟨u, hu, c, hl, hc⟩, r, he, hr⟩
    | cons d x =>
      -- the mark would be a character of the word
      injection he with hdm
      have hd : isWordChar d = true := isWordChar_of_mem_wordRun (l := l) (by rw [hl]; simp)
      rw [hdm, hm] at hd
      cases hd
  · rintro ⟨⟨u, hu, c, hl, hc⟩, r, he, hr⟩
    exact ⟨u, hu, c, [], hl, hc, r, he, hr⟩

/-! ## The connections of the grammars -/

theorem starts_message_iff (ht : trim l = l) (hn : '\n' ∉ l) :
    (Grammar.connection ["->>", "-->>", "-->", "--->", "->", "-->", "x", "--x"]).starts .caseless l =
      true ↔ wordRun l ≠ [] ∧
        ((∃ w ∈ ["->>", "-->>", "-->", "--->", "->", "--x", "x"], Joins w (behindRun l)) ∨
          (∃ i, 1 ≤ i ∧ ∃ h : i + 1 < (wordRun l).length, (wordRun l)[i] ∈ ['x', 'X']) ∨
          EndsIn ['x', 'X'] l ∧ SpacedWord (behindRun l)) := by
  have hcarved : ["->>", "-->>", "-->", "--->", "->", "-->", "x", "--x"].filter opensInWord =
    ["x"] := by decide
  have hmates : mates 'x' = ['x', 'X'] := by decide
  have hsame : ∀ w, w ∈ ["->>", "-->>", "-->", "--->", "->", "-->", "x", "--x"] ↔
      w ∈ ["->>", "-->>", "-->", "--->", "->", "--x", "x"] := by
    intro w
    simp only [List.mem_cons, List.not_mem_nil, or_false]
    grind
  rw [starts_connection_iff (by decide) ht hn, hcarved]
  simp only [hsame, List.mem_singleton, exists_eq_left,
    carved_letter_iff (w := "x") (a := 'x') rfl, hmates]

theorem starts_relationship_iff (ht : trim l = l) (hn : '\n' ∉ l) :
    (Grammar.connection ["||", "\x7bo", "o|", "\x7do", "o\x7b", "|\x7d", "\x7d|", "\x7b\x7b"]).starts
      .caseless l = true ↔ wordRun l ≠ [] ∧
        ((∃ w ∈ ["||", "\x7bo", "o|", "\x7do", "o\x7b", "|\x7d", "\x7d|", "\x7b\x7b"],
            Joins w (behindRun l)) ∨
          EndsIn ['o', 'O'] l ∧ ∃ c r, behindRun l = c :: r ∧ c ∈ ['|', '\x7b'] ∧
            BeginsWord (r.dropWhile isBlank)) := by
  have hcarved : ["||", "\x7bo", "o|", "\x7do", "o\x7b", "|\x7d", "\x7d|", "\x7b\x7b"].filter
    opensInWord = ["o|", "o\x7b"] := by decide
  have hmates : mates 'o' = ['o', 'O'] := by decide
  have hbar := carved_marks_iff (l := l) (w := "o|") (a := 'o') (m := '|') (z := []) rfl
    (by decide) (by decide)
  have hbrace := carved_marks_iff (l := l) (w := "o\x7b") (a := 'o') (m := '\x7b') (z := []) rfl
    (by decide) (by decide)
  rw [starts_connection_iff (by decide) ht hn, hcarved]
  refine and_congr_right fun _ => or_congr Iff.rfl ?_
  simp only [List.mem_cons, List.not_mem_nil, or_false, exists_eq_or_imp, exists_eq_left, hbar,
    hbrace, hmates, ← and_or_left]
  refine and_congr_right fun _ => ?_
  constructor
  · rintro (⟨r, he, hr⟩ | ⟨r, he, hr⟩)
    · exact ⟨_, r, he, .inl rfl, hr⟩
    · exact ⟨_, r, he, .inr rfl, hr⟩
  · rintro ⟨c, r, he, rfl | rfl, hr⟩
    · exact .inl ⟨r, he, hr⟩
    · exact .inr ⟨r, he, hr⟩

theorem starts_relation_iff (ht : trim l = l) (hn : '\n' ∉ l) :
    (Grammar.connection ["--", "...", "<|--", "*--", "o--", "|..."]).starts .caseless l = true ↔
      wordRun l ≠ [] ∧
        ∃ w ∈ ["--", "...", "<|--", "*--", "o--", "|..."], Joins w (behindRun l) := by
  have hcarved : ["--", "...", "<|--", "*--", "o--", "|..."].filter opensInWord = ["o--"] := by
    decide
  rw [starts_connection_iff (by decide) ht hn, hcarved]
  refine and_congr_right fun _ => or_iff_left_of_imp ?_
  rintro ⟨w, hw, hc⟩
  obtain rfl := List.mem_singleton.1 hw
  -- the letter is not needed, as two dashes connect as well
  obtain ⟨-, r, he, hr⟩ :=
    (carved_marks_iff rfl (by decide) (by decide)).1 hc
  exact ⟨"--", .head _, [], _, r, by simp [AllBlank], rfl, he, hr⟩

/-- **The language of connections.**  A trimmed line without newlines is a connection if a connector
    and a word follow all the word characters at its beginning.  The first word need not be taken to
    its end, though.  A message may have its `x` inside the first word, or at the end of it with
    blanks and a word behind; a relationship may have its `o` at the end of the first word, with a
    bar or a brace behind.  Of the connectors of classes only `o--` begins with a letter, and it adds
    nothing. -/
theorem connection_language :
    (∃ s, Grammar.sequence.rule? "message" = some s ∧ ∀ l, trim l = l → '\n' ∉ l →
      (s.accepts l = true ↔ wordRun l ≠ [] ∧
        ((∃ w ∈ ["->>", "-->>", "-->", "--->", "->", "--x", "x"], Joins w (behindRun l)) ∨
          (∃ i, 1 ≤ i ∧ ∃ h : i + 1 < (wordRun l).length, (wordRun l)[i] ∈ ['x', 'X']) ∨
          EndsIn ['x', 'X'] l ∧ SpacedWord (behindRun l)))) ∧
    (∃ s, Grammar.entities.rule? "relationship" = some s ∧ ∀ l, trim l = l → '\n' ∉ l →
      (s.accepts l = true ↔ wordRun l ≠ [] ∧
        ((∃ w ∈ ["||", "\x7bo", "o|", "\x7do", "o\x7b", "|\x7d", "\x7d|", "\x7b\x7b"],
            Joins w (behindRun l)) ∨
          EndsIn ['o', 'O'] l ∧ ∃ c r, behindRun l = c :: r ∧ c ∈ ['|', '\x7b'] ∧
            BeginsWord (r.dropWhile isBlank)))) ∧
    ∃ s, Grammar.classes.rule? "relation" = some s ∧ ∀ l, trim l = l → '\n' ∉ l →
      (s.accepts l = true ↔ wordRun l ≠ [] ∧
        ∃ w ∈ ["--", "...", "<|--", "*--", "o--", "|..."], Joins w (behindRun l)) :=
  ⟨⟨_, rfl, fun _ => starts_message_iff⟩, ⟨_, rfl, fun _ => starts_relationship_iff⟩,
    ⟨_, rfl, fun _ => starts_relation_iff⟩⟩

/-- One word is a message if an `x` stands inside it, but not if it ends in one; an `o` before a bar
    is the end of the word and the beginning of the connector. -/
theorem connection_language_boxes :
    (∃ s, Grammar.sequence.rule? "message" = some s ∧ s.accepts "Boxes".toList = true ∧
      s.accepts "Box".toList = false) ∧
    (∃ s, Grammar.entities.rule? "relationship" = some s ∧ s.accepts "Foo| Bar".toList = true) ∧
    ∃ s, Grammar.classes.rule? "relation" = some s ∧ s.accepts "Foo--Bar".toList = true := by
  obtain ⟨⟨s, hs, hmessage⟩, ⟨s', hs', hrelationship⟩, s'', hs'', hrelation⟩ := connection_language
  refine ⟨⟨s, hs, ?_, ?_⟩, ⟨s', hs', ?_⟩, s'', hs'', ?_⟩
  · exact (hmessage _ (by decide) (by decide)).2 ⟨by decide,
      .inr (.inl ⟨2, by decide, by decide, by decide⟩)⟩
  · have hend : behindRun "Box".toList = [] := by decide
    have hrun : wordRun "Box".toList = ['B', 'o', 'x'] := by decide
    rw [← Bool.not_eq_true, hmessage _ (by decide) (by decide), hend]
    rintro ⟨-, ⟨w, -, b, v, r, -, -, he, hr⟩ | ⟨i, hi, hlt, hx⟩ | ⟨-, b, r, -, -, he, hr⟩⟩
    · obtain ⟨rfl, rfl, rfl⟩ : b = [] ∧ v = [] ∧ r = [] := by simpa using he
      exact not_beginsWord_nil hr
    · simp only [hrun] at hlt hx
      obtain rfl : i = 1 := Nat.le_antisymm (Nat.lt_succ_iff.1 (Nat.lt_of_succ_lt_succ hlt)) hi
      exact absurd hx (by simp)
    · obtain ⟨rfl, rfl⟩ : b = [] ∧ r = [] := by simpa using he
      exact not_beginsWord_nil hr
  · refine (hrelationship _ (by decide) (by decide)).2 ⟨by decide, .inr ⟨?_, ?_⟩⟩
    · exact ⟨by decide, 'o', by decide, .head _⟩
    · exact ⟨'|', " Bar".toList, by decide, .head _, 'B', by decide,
        by decide⟩
  · refine (hrelation _ (by decide) (by decide)).2 ⟨by decide, "--", .head _, ?_⟩
    exact ⟨[], "--".toList, "Bar".toList, by simp [AllBlank], rfl, by decide, 'B',
      by decide, by decide⟩

end DiagramLint
