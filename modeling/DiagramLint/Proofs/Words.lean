/-
  The words of the grammars.

  A word is written in letters and digits of ASCII and underscores.  As the rules disregard case, the
  four letters that `fold` takes for one of ASCII pass for it.

  * `isNameChar c`: the character is a letter or digit of ASCII or an underscore;
  * `isWordLike c`: the same, or any character outside ASCII that is no edge;
  * `isWordChar c`: the character belongs to the class of the grammars;
  * `BeginsWord s`: the text begins with such a character;
  * `Pattern.AvoidsWords q`: the pattern does not begin inside a text of such characters.

  `holds_wordChar`: the class of the grammars has the characters whose folded form is a name
  character.  `starts_word_append_iff`: a pattern that asks for a word, and then for something that
  is none, takes all of the text up to the blank.
-/
import DiagramLint.Grammar
import DiagramLint.Proofs.Opening

namespace DiagramLint

open Text

/-! ## Characters of words -/

namespace Text

/-- The character is a letter or digit of ASCII or an underscore. -/
def isNameChar (c : Char) : Bool := c.isAlphanum || c == '_'

/-- The character might belong to a word, of whatever script. -/
def isWordLike (c : Char) : Bool := isNameChar c || (128 ≤ c.toNat && !isEdge c)

/-- The letters outside ASCII that differ from one of ASCII in case only. -/
def asciiKin : List Char := ['\u0130', '\u0131', '\u017F', '\u212A']

variable {c d : Char}

theorem toNat_lt_of_isNameChar (h : isNameChar c = true) : c.toNat < 128 := by
  have upper (h : c.isUpper = true) : c.toNat < 128 :=
    Nat.lt_of_le_of_lt (show c.toNat ≤ 'Z'.toNat from (of_decide_eq_true h).2) (by decide)
  have lower (h : c.isLower = true) : c.toNat < 128 :=
    Nat.lt_of_le_of_lt
      (show c.toNat ≤ 'z'.toNat from of_decide_eq_true (Bool.and_eq_true_iff.1 h).2) (by decide)
  have digit (h : c.isDigit = true) : c.toNat < 128 :=
    Nat.lt_of_le_of_lt
      (show c.toNat ≤ '9'.toNat from of_decide_eq_true (Bool.and_eq_true_iff.1 h).2) (by decide)
  rcases Bool.or_eq_true_iff.1 h with h | h
  · rcases Bool.or_eq_true_iff.1 h with h | h
    · exact (Bool.or_eq_true_iff.1 h).elim upper lower
    · exact digit h
  · obtain rfl := beq_iff_eq.1 h
    decide

theorem isNameChar_of_ge (h : 128 ≤ c.toNat) : isNameChar c = false := by
  rw [← Bool.not_eq_true]
  intro hc
  have := toNat_lt_of_isNameChar hc
  omega

/-- Case does not make a name of what is none, but for the letters that have kin in ASCII. -/
theorem isNameChar_fold_iff (c : Char) :
    isNameChar (fold c) = true ↔ isNameChar c = true ∨ c ∈ asciiKin := by
  refine fold_cases (P := fun c => isNameChar (fold c) = true ↔ isNameChar c = true ∨ c ∈ asciiKin)
    (by decide) (by decide) (fun c hc hf => ?_) c
  have hk : c ∉ asciiKin := by
    intro hm
    simp only [asciiKin, List.mem_cons, List.not_mem_nil, or_false] at hm
    rcases hm with rfl | rfl | rfl | rfl <;> exact absurd hf (by decide)
  simp [hf, hk]

@[simp] theorem isWordLike_fold (c : Char) : isWordLike (fold c) = isWordLike c :=
  fold_cases (P := fun c => isWordLike (fold c) = isWordLike c) (by decide)
    (by decide) (fun _ _ h => by rw [h]) c

theorem isBlank_eq_false_of_isWordLike (h : isWordLike c = true) : isBlank c = false := by
  refine ascii_cases (P := fun c => isWordLike c = true → isBlank c = false) (by decide)
    (fun c hc h => ?_) c h
  simp only [isWordLike, isNameChar_of_ge hc, Bool.false_or, Bool.and_eq_true, Bool.not_eq_true',
    isEdge, Bool.or_eq_false_iff] at h
  exact h.2.1

end Text

/-! ## The class of the grammars -/

theorem any_covers_wordItems (c : Char) :
    Grammar.wordItems.any (·.covers c) = isNameChar c := by
  refine ascii_cases (P := fun c => Grammar.wordItems.any (·.covers c) = isNameChar c)
    (by decide) (fun c hc => ?_) c
  have hr : ∀ m n : Char, n.toNat < 128 → (ClassItem.range m n).covers c = false := by
    intro m n hn
    simp only [ClassItem.covers, Bool.and_eq_false_iff, decide_eq_false_iff_not]
    omega
  have hu : (ClassItem.char '_').covers c = false := by
    simp only [ClassItem.covers, beq_eq_false_iff_ne]
    rintro rfl
    exact absurd hc (by decide)
  simp only [Grammar.wordItems, List.any_cons, List.any_nil, hr _ 'Z' (by decide),
    hr _ 'z' (by decide), hr _ '9' (by decide), hu, Bool.or_false, isNameChar_of_ge hc]

/-- **The word characters are those whose folded form is a name character.** -/
theorem holds_wordChar (c : Char) :
    Grammar.wordChar.holds .caseless c = isNameChar (fold c) := by
  have hm : ∀ m, m ∈ mates c ↔ fold m = fold c := fun m => mem_mates_iff
  rw [Bool.eq_iff_iff]
  simp only [Grammar.wordChar, CharClass.holds, ClassItem.anyCovers, List.any_eq_true,
    Folding.mates, hm]
  constructor
  · rintro ⟨i, hi, m, hf, hc⟩
    have hn : isNameChar m = true := by
      rw [← any_covers_wordItems, List.any_eq_true]
      exact ⟨i, hi, hc⟩
    rw [← hf, isNameChar_fold_iff]
    exact .inl hn
  · intro h
    rw [← any_covers_wordItems, List.any_eq_true] at h
    obtain ⟨i, hi, hc⟩ := h
    exact ⟨i, hi, fold c, fold_fold c, hc⟩

/-! ## Texts that begin with a word -/

/-- The character belongs to words, for rules that disregard case. -/
def isWordChar (c : Char) : Bool := Grammar.wordChar.holds .caseless c

/-- The text begins with a word. -/
def BeginsWord (s : List Char) : Prop := ∃ c ∈ s.head?, isWordChar c = true

variable {c d : Char} {s : List Char}

theorem isWordChar_eq_of_fold_eq (h : fold c = fold d) : isWordChar c = isWordChar d := by
  rw [isWordChar, isWordChar, holds_wordChar, holds_wordChar, h]

theorem isBlank_eq_false_of_isWordChar (h : isWordChar c = true) : isBlank c = false := by
  rw [isWordChar, holds_wordChar] at h
  rw [← isBlank_fold]
  exact isBlank_eq_false_of_isWordLike (by rw [isWordLike, h, Bool.true_or])

@[simp] theorem not_beginsWord_nil : ¬ BeginsWord [] := by
  rintro ⟨c, ⟨⟩, -⟩

@[simp] theorem beginsWord_cons : BeginsWord (c :: s) ↔ isWordChar c = true := by
  simp [BeginsWord]

theorem BeginsWord.dropWhile_isBlank (h : BeginsWord s) : s.dropWhile isBlank = s := by
  cases s with
  | nil => rfl
  | cons c s => simp [isBlank_eq_false_of_isWordChar (beginsWord_cons.1 h)]

namespace Pattern

/-- A word and the rest of the line are there if there is one character of a word. -/
theorem starts_word_rest_iff (hn : '\n' ∉ s) :
    (Grammar.word ++ Grammar.rest).starts .caseless s = true ↔ BeginsWord s := by
  rw [Grammar.word, starts_many1_append_iff]
  constructor
  · rintro ⟨v, r, hne, hv, rfl, -⟩
    obtain ⟨c, v, rfl⟩ := List.exists_cons_of_ne_nil hne
    exact beginsWord_cons.2 (hv c List.mem_cons_self)
  · intro h
    cases s with
    | nil => exact absurd h not_beginsWord_nil
    | cons c s =>
      refine ⟨[c], s, List.cons_ne_nil _ _,
        List.forall_mem_singleton.2 (beginsWord_cons.1 h), rfl, ?_⟩
      exact starts_rest fun hs => hn (List.mem_cons_of_mem c hs)

theorem starts_blanks_word_rest_iff (hn : '\n' ∉ s) :
    (Grammar.blanks ++ (Grammar.word ++ Grammar.rest)).starts .caseless s = true ↔
      BeginsWord (s.dropWhile isBlank) := by
  rw [starts_blanks_append_iff]
  constructor
  · rintro ⟨b, r, hb, rfl, hr⟩
    rw [starts_word_rest_iff fun hr => hn (List.mem_append_right b hr)] at hr
    rwa [List.dropWhile_append_of_pos hb, hr.dropWhile_isBlank]
  · intro h
    refine ⟨s.takeWhile isBlank, s.dropWhile isBlank, ?_, List.takeWhile_append_dropWhile.symm, ?_⟩
    · exact List.all_eq_true.1 List.all_takeWhile
    · exact (starts_word_rest_iff fun hd => hn ((List.dropWhile_sublist _).subset hd)).2 h

end Pattern

/-! ## Patterns that do not begin inside a word -/

/-- The connector cannot begin inside a word: one of its first two characters neither belongs to
    words nor is blank. -/
def separates (v : String) : Bool := (v.toList.take 2).any fun c => !isWordLike c && !isBlank c

namespace Pattern

/-- The pattern does not begin inside a text of characters that might belong to a word, if a space
    follows that text. -/
def AvoidsWords (q : Pattern) : Prop :=
  ∀ u r, u ≠ [] → (∀ c ∈ u, isWordLike c = true) → q.starts .caseless (u ++ ' ' :: r) = false

variable {q : Pattern} {cls : CharClass} {v : String} {vs : List String}

theorem avoidsWords_many (hcls : ∀ c, isWordLike c = true → cls.holds .caseless c = false)
    (hq : q.AvoidsWords) : (.many cls ++ q).AvoidsWords := by
  intro u r hne hu
  obtain ⟨c, u', rfl⟩ := List.exists_cons_of_ne_nil hne
  have hc := hcls c (hu c List.mem_cons_self)
  rw [List.cons_append, starts_many_append_of_head hc]
  exact hq _ r hne hu

theorem avoidsWords_blanks (hq : q.AvoidsWords) : (Grammar.blanks ++ q).AvoidsWords :=
  avoidsWords_many (fun _ => isBlank_eq_false_of_isWordLike) hq

theorem avoidsWords_only {d : Char} (hd : isWordLike d = false) (hq : q.AvoidsWords) :
    (.many (.only d) ++ q).AvoidsWords := by
  refine avoidsWords_many (fun c hc => ?_) hq
  simp only [CharClass.holds, Folding.fold, beq_eq_false_iff_ne]
  intro he
  rw [← isWordLike_fold, he, isWordLike_fold, hd] at hc
  cases hc

theorem avoidsWords_text (hv : separates v = true) : (.text v ++ q).AvoidsWords := by
  intro u r hne hu
  rw [← Bool.not_eq_true, starts_text_append_iff]
  rintro ⟨r', hs, -⟩
  obtain ⟨d, hd, hsep⟩ := List.any_eq_true.1 hv
  simp only [Bool.and_eq_true, Bool.not_eq_true'] at hsep
  -- The connector has its first two characters from the word and the space behind it.
  have hquiet : ∀ c ∈ ((u ++ ' ' :: r).map fold).take 2, isWordLike c = true ∨ isBlank c = true := by
    have hsp : isBlank ' ' = true := rfl
    obtain ⟨a, u', rfl⟩ := List.exists_cons_of_ne_nil hne
    have ha := hu a List.mem_cons_self
    rcases u' with _ | ⟨b, u''⟩
    · simp [ha, hsp]
    · have hb := hu b (by simp)
      simp [ha, hb]
  have hmem : fold d ∈ ((u ++ ' ' :: r).map fold).take 2 := by
    rw [hs, List.take_append, ← List.map_take]
    exact List.mem_append_left _ (List.mem_map_of_mem hd)
  rcases hquiet _ hmem with h | h
  · rw [isWordLike_fold, hsep.1] at h
    cases h
  · rw [isBlank_fold, hsep.2] at h
    cases h

theorem avoidsWords_anyOf (hvs : vs.all separates = true) : (.anyOf vs ++ q).AvoidsWords := by
  intro u r hne hu
  rw [← Bool.not_eq_true, starts_anyOf_append_iff]
  rintro ⟨v, hv, h⟩
  rw [avoidsWords_text (List.all_eq_true.1 hvs v hv) u r hne hu] at h
  cases h

/-! ## A word and what follows it -/

variable {w r : List Char}

/-- **A word is taken up to the space behind it.** -/
theorem starts_word_append_iff (hq : q.AvoidsWords) (hne : w ≠ [])
    (hw : ∀ c ∈ w, isWordLike c = true) :
    (Grammar.blanks ++ (Grammar.word ++ (Grammar.blanks ++ q))).starts .caseless (w ++ ' ' :: r) =
        true ↔
      (∀ c ∈ w, isNameChar (fold c) = true) ∧
        (Grammar.blanks ++ q).starts .caseless (' ' :: r) = true := by
  have hq' := avoidsWords_blanks hq
  obtain ⟨a, w', rfl⟩ := List.exists_cons_of_ne_nil hne
  have ha : CharClass.blank.holds .caseless a = false :=
    isBlank_eq_false_of_isWordLike (hw a List.mem_cons_self)
  rw [List.cons_append, Grammar.blanks, starts_many_append_of_head ha, ← List.cons_append,
    Grammar.word, starts_many1_append_iff]
  simp only [holds_wordChar]
  constructor
  · rintro ⟨v, t, -, hv, hs, hqt⟩
    -- Here the word ends before the space, with it or behind it.
    rcases List.append_eq_append_iff.1 hs with ⟨x, rfl, hx⟩ | ⟨x, hx, rfl⟩
    · rcases x with _ | ⟨e, x⟩
      · rw [List.append_nil] at hv
        rw [List.nil_append] at hx
        exact ⟨hv, by rw [hx]; exact hqt⟩
      · obtain ⟨rfl, -⟩ := List.cons.inj hx
        exact absurd (hv ' ' (by simp)) (by decide)
    · by_cases hx0 : x = []
      · subst hx0
        rw [List.append_nil] at hx
        rw [hx]
        exact ⟨hv, hqt⟩
      · have hxw : ∀ c ∈ x, isWordLike c = true := by
          intro c hc
          exact hw c (by rw [hx]; exact List.mem_append_right _ hc)
        rw [Grammar.blanks] at hq'
        rw [hq' x r hx0 hxw] at hqt
        cases hqt
  · rintro ⟨hn, hqr⟩
    exact ⟨_, _, hne, hn, rfl, hqr⟩

end Pattern

/-! ## Rules that read a word -/

theorem isWordLike_of_mem_singleton : ∀ c ∈ ['A'], isWordLike c = true :=
  List.forall_mem_singleton.2 (by decide)

/-- What the rule accepts of a text up to a space is a matter of the characters of that text only: any
    word would do in its place. -/
def Rule.ReadsWord (s : Rule) : Prop :=
  ∀ w r, w ≠ [] → (∀ c ∈ w, isWordLike c = true) → (s.accepts (w ++ ' ' :: r) = true ↔
    (∀ c ∈ w, isNameChar (fold c) = true) ∧ s.accepts (['A'] ++ ' ' :: r) = true)

namespace Rule

variable {name : String} {p q p' : Pattern}

theorem readsWord_append_assoc : (Grammar.shape name ((p ++ q) ++ p')).ReadsWord ↔
    (Grammar.shape name (p ++ (q ++ p'))).ReadsWord := Iff.rfl

theorem readsWord_word (hq : q.AvoidsWords) : (Grammar.shape name
    (Grammar.blanks ++ (Grammar.word ++ (Grammar.blanks ++ q)))).ReadsWord := by
  intro w r hne hw
  have hA : ∀ c ∈ ['A'], isNameChar (fold c) = true := List.forall_mem_singleton.2 (by decide)
  have hone := Pattern.starts_word_append_iff (r := r) hq (List.cons_ne_nil 'A' [])
    isWordLike_of_mem_singleton
  refine (Pattern.starts_word_append_iff hq hne hw).trans (and_congr_right fun _ => ?_)
  exact ((and_iff_right hA).symm.trans hone.symm)

theorem readsWord_of_avoidsWords (hp : p.AvoidsWords) : (Grammar.shape name p).ReadsWord := by
  intro w r hne hw
  have hA : (Grammar.shape name p).accepts (['A'] ++ ' ' :: r) = false :=
    hp ['A'] r (List.cons_ne_nil _ _) isWordLike_of_mem_singleton
  have hw' : (Grammar.shape name p).accepts (w ++ ' ' :: r) = false := hp w r hne hw
  rw [hA, hw']
  simp

end Rule

theorem readsWord_entities : ∀ s ∈ Grammar.entities.shapes, s.ReadsWord := by
  simp only [Grammar.entities, List.forall_mem_cons, Grammar.connection,
    Rule.readsWord_append_assoc]
  refine ⟨?opening, ?typed, ?relationship, ?closing, List.forall_mem_nil _⟩
  case opening => exact Rule.readsWord_word (Pattern.avoidsWords_text (by decide))
  case typed => exact Rule.readsWord_word (Pattern.avoidsWords_text (by decide))
  case relationship => exact Rule.readsWord_word (Pattern.avoidsWords_anyOf (by decide))
  case closing =>
    exact Rule.readsWord_of_avoidsWords
      (Pattern.avoidsWords_blanks (Pattern.avoidsWords_text (by decide)))

theorem readsWord_states : ∀ s ∈ Grammar.states.shapes, s.ReadsWord := by
  simp only [Grammar.states, List.forall_mem_cons, Rule.readsWord_append_assoc]
  refine ⟨?entry, ?transition, ?initial, ?final, List.forall_mem_nil _⟩
  case entry =>
    refine Rule.readsWord_of_avoidsWords (Pattern.avoidsWords_blanks ?_)
    refine Pattern.avoidsWords_only (by decide) (Pattern.avoidsWords_only (by decide) ?_)
    exact Pattern.avoidsWords_blanks (Pattern.avoidsWords_text (by decide))
  case transition => exact Rule.readsWord_word (Pattern.avoidsWords_text (by decide))
  case initial =>
    exact Rule.readsWord_of_avoidsWords
      (Pattern.avoidsWords_blanks (Pattern.avoidsWords_text (by decide)))
  case final => exact Rule.readsWord_word (Pattern.avoidsWords_text (by decide))

/-- One of the rules accepts the line. -/
def AnyAccepts (rs : List Rule) (l : Line) : Prop := ∃ s ∈ rs, s.accepts l = true

variable {rs : List Rule} {w r : List Char}

theorem anyAccepts_word_iff (hrs : ∀ s ∈ rs, s.ReadsWord) (hne : w ≠ [])
    (hw : ∀ c ∈ w, isWordLike c = true) (hA : AnyAccepts rs (['A'] ++ ' ' :: r)) :
    AnyAccepts rs (w ++ ' ' :: r) ↔ ∀ c ∈ w, isNameChar c = true ∨ c ∈ asciiKin := by
  simp only [← isNameChar_fold_iff]
  constructor
  · rintro ⟨s, hs, h⟩
    exact ((hrs s hs w r hne hw).1 h).1
  · intro h
    obtain ⟨s, hs, hsA⟩ := hA
    exact ⟨s, hs, (hrs s hs w r hne hw).2 ⟨h, hsA⟩⟩

/-- **Which texts pass for words.**  Before a brace, before a colon with a type and before an arrow,
    a text is read as a word exactly when it consists of name characters and of the four letters that
    differ from one of ASCII in case only. -/
theorem word_passes_iff (w : List Char) (hne : w ≠ [])
    (hw : ∀ c ∈ w, isWordLike c = true) :
    let isWord := ∀ c ∈ w, isNameChar c = true ∨ c ∈ asciiKin
    (AnyAccepts Grammar.entities.shapes (w ++ " \x7b".toList) ↔ isWord) ∧
    (AnyAccepts Grammar.entities.shapes (w ++ " : int".toList) ↔ isWord) ∧
    (AnyAccepts Grammar.states.shapes (w ++ " --> A".toList) ↔ isWord) := by
  intro isWord
  refine ⟨?_, ?_, ?_⟩
  · exact anyAccepts_word_iff (r := ['\x7b']) readsWord_entities hne hw ⟨_, .head _, rfl⟩
  · exact anyAccepts_word_iff (r := ": int".toList) readsWord_entities hne hw
      ⟨_, .tail _ (.head _), rfl⟩
  · exact anyAccepts_word_iff (r := "--> A".toList) readsWord_states hne hw
      ⟨_, .tail _ (.head _), rfl⟩

/-- A long s passes, an accented letter does not. -/
theorem word_passes_iff_maison :
    let w := "mai\u017Fon".toList
    let v := "caf\u00E9".toList
    (w ≠ [] ∧ (∀ c ∈ w, isWordLike c = true) ∧
      AnyAccepts Grammar.entities.shapes (w ++ " \x7b".toList) ∧
      AnyAccepts Grammar.entities.shapes (w ++ " : int".toList) ∧
      AnyAccepts Grammar.states.shapes (w ++ " --> A".toList)) ∧
    v ≠ [] ∧ (∀ c ∈ v, isWordLike c = true) ∧
      ¬ AnyAccepts Grammar.entities.shapes (v ++ " \x7b".toList) ∧
      ¬ AnyAccepts Grammar.entities.shapes (v ++ " : int".toList) ∧
      ¬ AnyAccepts Grammar.states.shapes (v ++ " --> A".toList) := by
  intro w v
  have hw : ∀ c ∈ w, isWordLike c = true := List.all_eq_true.1 (by decide +kernel)
  have hv : ∀ c ∈ v, isWordLike c = true := List.all_eq_true.1 (by decide +kernel)
  obtain ⟨hw₁, hw₂, hw₃⟩ := word_passes_iff w (by decide) hw
  obtain ⟨hv₁, hv₂, hv₃⟩ := word_passes_iff v (by decide) hv
  have hwpass : ∀ c ∈ w, isNameChar c = true ∨ c ∈ asciiKin := by
    have hall : w.all (fun c => isNameChar c || asciiKin.contains c) = true := by decide +kernel
    simpa using hall
  have hvfail : ¬ ∀ c ∈ v, isNameChar c = true ∨ c ∈ asciiKin := by
    intro h
    exact absurd (h '\u00E9' (by decide)) (by decide)
  exact ⟨⟨by decide, hw, hw₁.2 hwpass, hw₂.2 hwpass, hw₃.2 hwpass⟩, by decide, hv,
    mt hv₁.1 hvfail, mt hv₂.1 hvfail, mt hv₃.1 hvfail⟩

/-- The long s is no character of ASCII, but it is a word by itself. -/
theorem long_s_passes_for_word :
    let w := "\u017F".toList
    (w ≠ [] ∧ (∀ c ∈ w, isWordLike c = true) ∧ ¬ ∀ c ∈ w, isNameChar c = true) ∧
    AnyAccepts Grammar.entities.shapes (w ++ " \x7b".toList) ∧
    AnyAccepts Grammar.entities.shapes (w ++ " : int".toList) ∧
    AnyAccepts Grammar.states.shapes (w ++ " --> A".toList) := by
  intro w
  have hw : ∀ c ∈ w, isWordLike c = true := List.forall_mem_singleton.2 (by decide)
  have hn : ¬ ∀ c ∈ w, isNameChar c = true := by
    intro h
    exact absurd (h '\u017F' (.head _)) (by decide)
  exact ⟨⟨by decide, hw, hn⟩, ⟨_, .head _, rfl⟩, ⟨_, .tail _ (.head _), rfl⟩,
    ⟨_, .tail _ (.head _), rfl⟩⟩

end DiagramLint
