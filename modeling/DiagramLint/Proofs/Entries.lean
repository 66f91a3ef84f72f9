/-
  Lines with a label and a number.

  Tasks of journeys and entries of pie charts give a number for a text.  Where the text ends is told
  by a mark that it does not hold: it is cut at the first colon, or at the next quotation mark.

  * `IsNumber s`: a run of digits of ASCII, one or more;
  * `Grammar.taskLine` and `Grammar.dataLine`: the two shapes, part by part from the front.

  `starts_taskLine_iff` and `starts_dataLine_iff`: there is one way to cut a line.
-/
import DiagramLint.Proofs.Language
import DiagramLint.Proofs.Words

namespace DiagramLint

open Text

/-! ## Numbers -/

/-- A run of digits, one or more. -/
def IsNumber (s : List Char) : Prop := s ≠ [] ∧ ∀ c ∈ s, c.isDigit = true

variable {l s r : List Char} {c : Char} {q : Pattern}

theorem isDigit_of_ge (h : 128 ≤ c.toNat) : c.isDigit = false := by
  have hname := isNameChar_of_ge h
  rw [isNameChar, Bool.or_eq_false_iff] at hname
  exact (Bool.or_eq_false_iff.1 hname.1).2

theorem covers_digits (c : Char) : (ClassItem.range '0' '9').covers c = c.isDigit := by
  refine ascii_cases (P := fun c => (ClassItem.range '0' '9').covers c = c.isDigit)
    (by decide) (fun c hc => ?_) c
  have hnine : '9'.toNat < 128 := by decide
  rw [isDigit_of_ge hc, ClassItem.covers, Bool.and_eq_false_iff, decide_eq_false_iff_not,
    decide_eq_false_iff_not]
  omega

theorem isSingle_of_isDigit (h : c.isDigit = true) : isSingle c = true := by
  refine ascii_cases (P := fun c => c.isDigit = true → isSingle c = true) (by decide)
    (fun c hc h => ?_) c h
  rw [isDigit_of_ge hc] at h
  cases h

/-- No other character counts as a digit, as digits have no case. -/
theorem holds_digit (c : Char) : Grammar.digit.holds .caseless c = c.isDigit := by
  have hclass : Grammar.digit.holds .caseless c =
      (mates c).any (ClassItem.range '0' '9').covers := by
    simp [Grammar.digit, CharClass.holds, ClassItem.anyCovers, Folding.mates]
  rw [hclass, Bool.eq_iff_iff, List.any_eq_true]
  simp only [covers_digits]
  constructor
  · rintro ⟨m, hm, hd⟩
    obtain rfl := (fold_eq_fold_iff (isSingle_of_isDigit hd)).1 (mem_mates_iff.1 hm).symm
    exact hd
  · exact fun h => ⟨c, mem_mates_iff.2 rfl, h⟩

theorem isEdge_eq_false_of_isDigit (h : c.isDigit = true) : isEdge c = false := by
  refine ascii_cases (P := fun c => c.isDigit = true → isEdge c = false) (by decide)
    (fun c hc h => ?_) c h
  rw [isDigit_of_ge hc] at h
  cases h

theorem isBlank_eq_false_of_isDigit (h : c.isDigit = true) : isBlank c = false :=
  (Bool.or_eq_false_iff.1 (isEdge_eq_false_of_isDigit h)).1

theorem consumes_number_iff : Consumes .caseless (.many1 Grammar.digit) s r ↔
    ∃ n, IsNumber n ∧ s = n ++ r := by
  simp only [consumes_many1_iff, holds_digit, IsNumber, and_assoc]

theorem IsNumber.strip_append_append {n a b : List Char} (h : IsNumber n) (ha : AllBlank a)
    (hb : AllBlank b) : strip isBlank (a ++ (n ++ b)) = n := by
  have hn : ∀ c ∈ n, isBlank c = false := fun c hc => isBlank_eq_false_of_isDigit (h.2 c hc)
  rw [← List.append_assoc, Text.strip_append_append isBlank ha hb,
    strip_eq_stripEnd isBlank fun c hc => hn c (List.mem_of_head? hc)]
  exact stripEnd_eq_self isBlank fun c hc => hn c (List.mem_of_getLast? hc)

namespace Pattern

/-- A number with blanks on both sides. -/
theorem starts_number_append_iff :
    (Grammar.blanks ++ (.many1 Grammar.digit ++ (Grammar.blanks ++ q))).starts .caseless s = true ↔
      ∃ b r, IsNumber (strip isBlank b) ∧ s = b ++ r ∧ q.starts .caseless r = true := by
  simp only [starts_blanks_append_iff (q := .many1 _ ++ _), starts_append_iff (p := .many1 _),
    starts_blanks_append_iff (q := q), consumes_number_iff]
  constructor
  · rintro ⟨a, _, ha, rfl, _, ⟨n, hn, rfl⟩, b, r, hb, rfl, hq⟩
    refine ⟨a ++ (n ++ b), r, ?_, by simp, hq⟩
    rwa [hn.strip_append_append ha hb]
  · rintro ⟨b, r, hn, rfl, hq⟩
    obtain ⟨a, z, ha, hz, he⟩ := exists_eq_append_strip_append isBlank b
    refine ⟨a, strip isBlank b ++ (z ++ r), ha, ?_, _, ⟨_, hn, rfl⟩, z, r, hz, rfl, hq⟩
    calc b ++ r = a ++ (strip isBlank b ++ z) ++ r := congrArg (· ++ r) he
      _ = a ++ (strip isBlank b ++ (z ++ r)) := by simp

end Pattern

/-! ## Texts up to a mark -/

namespace Pattern

variable {d : Char} {w : String}

theorem starts_mark_append_iff (hw : w.toList = [d]) (hd : isSingle d = true) :
    (.text w ++ q).starts .caseless s = true ↔ ∃ r, s = d :: r ∧ q.starts .caseless r = true := by
  have hall : w.toList.all isSingle = true := by simpa [hw] using hd
  simp only [starts_append_iff, consumes_single_iff hall, hw, List.singleton_append]

/-- What stands before a mark goes up to the first one. -/
theorem starts_upTo_iff (hw : w.toList = [d]) (hd : isSingle d = true) :
    (.many1 (.except [.char d]) ++ (.text w ++ q)).starts .caseless s = true ↔
      ∃ a r, a ≠ [] ∧ d ∉ a ∧ s = a ++ d :: r ∧ q.starts .caseless r = true := by
  have hmem : ∀ a : List Char, (∀ c ∈ a, c ≠ d) ↔ d ∉ a := fun a =>
    ⟨fun h hm => h d hm rfl, fun h c hc he => h (he ▸ hc)⟩
  simp only [starts_many1_append_iff, starts_mark_append_iff hw hd, holds_except_iff hd, hmem]
  constructor
  · rintro ⟨a, _, hne, ha, rfl, r, rfl, hq⟩
    exact ⟨a, r, hne, ha, rfl, hq⟩
  · rintro ⟨a, r, hne, ha, rfl, hq⟩
    exact ⟨a, _, hne, ha, rfl, r, rfl, hq⟩

end Pattern

/-! ## The tasks of a journey -/

/-- A task: a text up to a colon, a number up to another one, and a word. -/
def Grammar.taskLine : Pattern :=
  blanks ++ (.many1 (.except [.char ':']) ++ (.text ":" ++ (blanks ++ (.many1 digit ++ (blanks ++
    (.text ":" ++ (blanks ++ (word ++ rest))))))))

theorem colon_notMem_of_isNumber_strip {b : List Char} (h : IsNumber (strip isBlank b)) :
    ':' ∉ b := by
  intro hm
  obtain ⟨a, z, ha, hz, he⟩ := exists_eq_append_strip_append isBlank b
  rw [he, List.mem_append, List.mem_append] at hm
  rcases hm with hm | hm | hm
  · exact absurd (ha _ hm) (by decide)
  · exact absurd (h.2 _ hm) (by decide)
  · exact absurd (hz _ hm) (by decide)

/-- **The tasks of journeys** are cut at their first two colons. -/
theorem starts_taskLine_iff (ht : trim l = l) (hn : '\n' ∉ l) :
    Grammar.taskLine.starts .caseless l = true ↔ ∃ a b c, l = a ++ ':' :: (b ++ ':' :: c) ∧
      ':' ∉ a ∧ ':' ∉ b ∧ a ≠ [] ∧ IsNumber (strip isBlank b) ∧
        BeginsWord (c.dropWhile isBlank) := by
  rw [Grammar.taskLine, Pattern.starts_blanks_append_of_trim ht,
    Pattern.starts_upTo_iff (d := ':') rfl (by decide)]
  simp only [Pattern.starts_number_append_iff,
    Pattern.starts_mark_append_iff (d := ':') (w := ":") rfl (by decide)]
  constructor
  · rintro ⟨a, _, hne, ha, rfl, b, _, hb, rfl, c, rfl, hc⟩
    rw [Pattern.starts_blanks_word_rest_iff fun h => hn (by simp [h])] at hc
    exact ⟨a, b, c, rfl, ha, colon_notMem_of_isNumber_strip hb, hne, hb, hc⟩
  · rintro ⟨a, b, c, rfl, ha, -, hne, hb, hc⟩
    refine ⟨a, _, hne, ha, rfl, b, _, hb, rfl, c, rfl, ?_⟩
    exact (Pattern.starts_blanks_word_rest_iff fun h => hn (by simp [h])).2 hc

/-! ## The data of a pie chart -/

/-- An entry: a label in quotation marks, a colon and a number. -/
def Grammar.dataLine : Pattern :=
  blanks ++ (.text "\"" ++ (.many1 (.except [.char '"']) ++ (.text "\"" ++ (blanks ++ (.text ":" ++
    (blanks ++ (.many1 digit ++ finish)))))))

theorem endsInInk_of_trim (h : trim l = l) : EndsInInk l := by
  intro c hc
  rw [← h] at hc
  have hedge := isEdge_eq_false_of_mem_getLast?_trim hc
  exact (Bool.or_eq_false_iff.1 hedge).1

/-- **The data of pie charts**: a label without quotation marks between two of them, and a number
    behind a colon. -/
theorem starts_dataLine_iff (ht : trim l = l) :
    Grammar.dataLine.starts .caseless l = true ↔ ∃ label b b' n,
      l = '"' :: (label ++ '"' :: (b ++ ':' :: (b' ++ n))) ∧ label ≠ [] ∧ '"' ∉ label ∧
        AllBlank b ∧ AllBlank b' ∧ IsNumber n := by
  rw [Grammar.dataLine, Pattern.starts_blanks_append_of_trim ht,
    Pattern.starts_mark_append_iff (d := '"') rfl (by decide)]
  simp only [Pattern.starts_upTo_iff (d := '"') (w := "\"") rfl (by decide),
    Pattern.starts_blanks_append_iff (q := .text ":" ++ _),
    Pattern.starts_mark_append_iff (d := ':') (w := ":") rfl (by decide),
    Pattern.starts_blanks_append_iff (q := .many1 _ ++ _),
    Pattern.starts_append_iff (p := .many1 _), consumes_number_iff, Pattern.starts_finish_iff]
  constructor
  · rintro ⟨_, rfl, label, _, hne, hlabel, rfl, b, _, hb, rfl, _, rfl, b', _, hb', rfl, z,
      ⟨n, hn, rfl⟩, hz⟩
    -- the line is trimmed, so no blanks follow the number
    have hink : EndsInInk (('"' :: (label ++ '"' :: (b ++ ':' :: (b' ++ n)))) ++ z) := by
      simpa using endsInInk_of_trim ht
    obtain rfl := hink.eq_nil hz
    exact ⟨label, b, b', n, by simp, hne, hlabel, hb, hb', hn⟩
  · rintro ⟨label, b, b', n, rfl, hne, hlabel, hb, hb', hn⟩
    exact ⟨_, rfl, label, _, hne, hlabel, rfl, b, _, hb, rfl, _, rfl, b', _, hb', rfl, [],
      ⟨n, hn, (List.append_nil n).symm⟩, by simp [AllBlank]⟩

end DiagramLint
