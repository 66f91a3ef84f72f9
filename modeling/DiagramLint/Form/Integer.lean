/-
  The integer that a value stands for.

  * `integerOfText`: the integer that a text writes;
  * `integerOfDouble`: the integer that a double is;
  * `integerOf`: the same for any value; `true` and `false` count as one and zero.

  A text is read generously: blanks around the number do not count, nor do a plus sign in front of
  it, the zeros in front of it, a fraction of zeros behind it and single underscores inside it.  The
  zeros in front may stand before its minus sign or behind it.  What is left then is a plain number,
  which `plainInteger` reads.

  `plainInteger_digits`: digits are read as the number that they write.
  `plainInteger_minus_digits`: behind a minus sign, as its opposite.  `isNumeral_of_integerOfText`: a
  text that writes an integer holds numerals only.
-/
import DiagramLint.Form.Problem
import DiagramLint.Json.Double
import DiagramLint.Text.Blank

namespace DiagramLint

/-! ## Texts -/

/-- The blanks around an integer in a text. -/
def isTextBlank (c : Char) : Bool :=
  Text.isBlank c && !(0x1C ≤ c.toNat && c.toNat ≤ 0x1F)

/-- The text without a plus sign in front, unless a minus sign follows. -/
def dropPlus : List Char → List Char
  | '+' :: '-' :: s => '+' :: '-' :: s
  | '+' :: s => s
  | s => s

/-- The text behind a zero or an underscore, `last`, without the zeros in front of its number and
    the underscores among them.  In front of a point, and where nothing follows, `last` stays. -/
def dropZerosBehind (last : Char) : List Char → Option (List Char)
  | [] => some [last]
  | c :: s =>
    if c = '0' ∨ c = '_' then dropZerosBehind c s
    else if c = '.' then some (last :: c :: s)
    else if c.isDigit ∨ c = '-' then some (c :: s)
    else none

/-- The text without the zeros in front of its number; none if no number can follow. -/
def dropZeros : List Char → Option (List Char)
  | [] => none
  | c :: s =>
    if c = '0' then dropZerosBehind c s
    else if c.isDigit ∨ c = '-' then some (c :: s)
    else none

/-- A fraction that adds nothing: there is none, or a point and at least one zero, and only zeros. -/
def isZeroFraction : List Char → Bool
  | [] => true
  | c :: s => c == '.' && !s.isEmpty && s.all (· == '0')

/-- The text without a fraction of zeros. -/
def dropFraction (s : List Char) : List Char :=
  let whole := s.takeWhile (· != '.')
  if isZeroFraction (s.drop whole.length) then whole else s

/-- No underscore stands at an end or beside another one. -/
def underscoresInside (s : List Char) : Bool :=
  s.head? != some '_' && s.getLast? != some '_' && !Text.occursIn ['_', '_'] s

/-- The text without its underscores, if they are where they may be. -/
def dropUnderscores (s : List Char) : List Char :=
  if underscoresInside s then s.filter (· != '_') else s

/-- The most characters that an integer in a text may have: its minus sign and its digits, without
    the zeros in front. -/
def maxIntegerChars : Nat := 4300

/-- The integer that digits write, perhaps behind a minus sign. -/
def plainInteger (s : List Char) : Except FieldProblem Int :=
  let negative := s.head? == some '-'
  let t := if negative then s.drop 1 else s
  let ds := t.takeWhile Char.isDigit
  let n := Nat.ofDigitChars 10 ds 0
  if maxIntegerChars < (ds.dropWhile (· == '0')).length + negative.toNat then .error .overlongInteger
  else if ds ≠ [] ∧ ds = t then .ok (if negative then -(n : Int) else n)
  else .error .unreadableInteger

/-- The integer that a text writes. -/
def integerOfText (s : String) : Except FieldProblem Int :=
  match dropZeros (dropPlus (Text.strip isTextBlank s.toList)) with
  | none => .error .unreadableInteger
  | some t => plainInteger (dropUnderscores (dropFraction t))

theorem takeWhile_isDigit_eq_self {ds : List Char} (hd : ∀ c ∈ ds, c.isDigit = true) :
    ds.takeWhile Char.isDigit = ds := by
  have h : (ds ++ []).takeWhile Char.isDigit = ds ++ [].takeWhile Char.isDigit :=
    List.takeWhile_append_of_pos hd
  rwa [List.append_nil, List.takeWhile_nil, List.append_nil] at h

/-- Digits are read as the number that they write. -/
theorem plainInteger_digits {ds : List Char} (hne : ds ≠ []) (hd : ∀ c ∈ ds, c.isDigit = true)
    (hl : ds.length ≤ maxIntegerChars) :
    plainInteger ds = .ok (Nat.ofDigitChars 10 ds 0) := by
  have hm : (ds.head? == some '-') = false := by
    cases ds with
    | nil => rfl
    | cons d ds =>
      rw [List.head?_cons, beq_eq_false_iff_ne]
      intro h
      injection h with h
      exact absurd (h ▸ hd d List.mem_cons_self) (by decide)
  have hw : (ds.dropWhile (· == '0')).length ≤ ds.length := (List.dropWhile_sublist _).length_le
  simp only [plainInteger, hm, Bool.false_eq_true, if_false, takeWhile_isDigit_eq_self hd,
    Bool.toNat_false]
  rw [if_neg (by omega), if_pos ⟨hne, trivial⟩]

theorem plainInteger_minus_digits {ds : List Char} (hne : ds ≠ [])
    (hd : ∀ c ∈ ds, c.isDigit = true) (hl : ds.length < maxIntegerChars) :
    plainInteger ('-' :: ds) = .ok (-(Nat.ofDigitChars 10 ds 0 : Int)) := by
  have hm : (('-' :: ds).head? == some '-') = true := by
    rw [List.head?_cons, beq_self_eq_true]
  have hw : (ds.dropWhile (· == '0')).length ≤ ds.length := (List.dropWhile_sublist _).length_le
  simp only [plainInteger, hm, if_true, List.drop_succ_cons, List.drop_zero,
    takeWhile_isDigit_eq_self hd, Bool.toNat_true]
  rw [if_neg (by omega), if_pos ⟨hne, trivial⟩]

/-! ## What integers are written with -/

/-- Integers are written with digits, signs, points and underscores, and blanks around them. -/
def isNumeral (c : Char) : Bool :=
  c.isDigit || ['+', '-', '.', '_'].contains c || isTextBlank c

section numerals

variable {last : Char} {s t : List Char} {n : Int}

theorem isNumeral_of_isDigit {c : Char} (h : c.isDigit = true) : isNumeral c = true := by
  simp [isNumeral, h]

theorem isNumeral_of_plainInteger (h : plainInteger s = .ok n) : ∀ c ∈ s, isNumeral c = true := by
  have hdigits : ∀ t : List Char, t.takeWhile Char.isDigit = t → ∀ c ∈ t, isNumeral c = true := by
    intro t ht c hc
    have hall : (t.takeWhile Char.isDigit).all Char.isDigit = true := List.all_takeWhile
    exact isNumeral_of_isDigit (List.all_eq_true.1 hall c (ht.symm ▸ hc))
  cases s with
  | nil => simp
  | cons c s =>
    cases hm : (c :: s).head? == some '-' with
    | true =>
      simp only [plainInteger, hm, if_true, List.drop_succ_cons, List.drop_zero] at h
      split at h
      · cases h
      split at h
      · next hd =>
        obtain rfl : c = '-' := by simpa using hm
        exact List.forall_mem_cons.2 ⟨rfl, hdigits s hd.2⟩
      · cases h
    | false =>
      simp only [plainInteger, hm, Bool.false_eq_true, if_false] at h
      split at h
      · cases h
      split at h
      · next hd => exact hdigits _ hd.2
      · cases h

theorem isNumeral_of_dropUnderscores (h : ∀ c ∈ dropUnderscores s, isNumeral c = true) :
    ∀ c ∈ s, isNumeral c = true := by
  unfold dropUnderscores at h
  split at h
  · intro c hc
    by_cases hu : c = '_'
    · subst hu
      rfl
    · exact h c (List.mem_filter.2 ⟨hc, by simpa using hu⟩)
  · exact h

theorem isNumeral_of_isZeroFraction (h : isZeroFraction s = true) : ∀ c ∈ s, isNumeral c = true := by
  cases s with
  | nil => simp
  | cons c s =>
    simp only [isZeroFraction, Bool.and_eq_true, beq_iff_eq, List.all_eq_true] at h
    obtain ⟨⟨rfl, -⟩, hs⟩ := h
    refine List.forall_mem_cons.2 ⟨rfl, fun c hc => ?_⟩
    rw [hs c hc]
    rfl

theorem isNumeral_of_dropFraction (h : ∀ c ∈ dropFraction s, isNumeral c = true) :
    ∀ c ∈ s, isNumeral c = true := by
  unfold dropFraction at h
  simp only at h
  split at h
  · next hz =>
    rw [← List.take_append_drop (s.takeWhile (· != '.')).length s, List.forall_mem_append]
    refine ⟨?_, isNumeral_of_isZeroFraction hz⟩
    rwa [← List.prefix_iff_eq_take.1 (List.takeWhile_prefix _)]
  · exact h

theorem isNumeral_of_dropZerosBehind (ht : dropZerosBehind last s = some t)
    (h : ∀ c ∈ t, isNumeral c = true) : ∀ c ∈ s, isNumeral c = true := by
  induction s generalizing last with
  | nil => simp
  | cons c s ih =>
    rw [dropZerosBehind] at ht
    split at ht
    · next hc =>
      refine List.forall_mem_cons.2 ⟨?_, ih ht⟩
      rcases hc with rfl | rfl <;> rfl
    split at ht
    · cases ht
      exact (List.forall_mem_cons.1 h).2
    split at ht
    · cases ht
      exact h
    · cases ht

theorem isNumeral_of_dropZeros (ht : dropZeros s = some t) (h : ∀ c ∈ t, isNumeral c = true) :
    ∀ c ∈ s, isNumeral c = true := by
  cases s with
  | nil => simp
  | cons c s =>
    rw [dropZeros] at ht
    split at ht
    · next hc =>
      subst hc
      exact List.forall_mem_cons.2 ⟨rfl, isNumeral_of_dropZerosBehind ht h⟩
    split at ht
    · cases ht
      exact h
    · cases ht

theorem isNumeral_of_dropPlus (h : ∀ c ∈ dropPlus s, isNumeral c = true) :
    ∀ c ∈ s, isNumeral c = true := by
  unfold dropPlus at h
  split at h
  · exact h
  · exact List.forall_mem_cons.2 ⟨rfl, h⟩
  · exact h

theorem isNumeral_of_strip (h : ∀ c ∈ Text.strip isTextBlank s, isNumeral c = true) :
    ∀ c ∈ s, isNumeral c = true := by
  have hblank : ∀ c, isTextBlank c = true → isNumeral c = true := fun c hc => by
    simp [isNumeral, hc]
  obtain ⟨a, b, ha, hb, hs⟩ := Text.exists_eq_append_strip_append isTextBlank s
  rw [hs, List.forall_mem_append, List.forall_mem_append]
  exact ⟨fun c hc => hblank c (ha c hc), h, fun c hc => hblank c (hb c hc)⟩

/-- **A text that writes an integer holds numerals only.** -/
theorem isNumeral_of_integerOfText {s : String} (h : integerOfText s = .ok n) :
    ∀ c ∈ s.toList, isNumeral c = true := by
  unfold integerOfText at h
  split at h
  · cases h
  · next ht =>
    exact isNumeral_of_strip <| isNumeral_of_dropPlus <| isNumeral_of_dropZeros ht <|
      isNumeral_of_dropFraction <| isNumeral_of_dropUnderscores <| isNumeral_of_plainInteger h

end numerals

/-! ## Numbers and other values -/

/-- A double whose size is less than this one's, `2 ^ 63`, is read as an integer. -/
def integerBound : Nat := 9223372036854775808

/-- The integer that a double is, if its size is within the bound. -/
def integerOfDouble : Double → Except FieldProblem Int
  | .whole n => if n.natAbs < integerBound then .ok n else .error .overlongInteger
  | .fractional => .error .fractional
  | .infinite => .error .notFinite

/-- The integer that a value stands for. -/
def integerOf : Json → Except FieldProblem Int
  | .bool b => .ok (if b then 1 else 0)
  | .num (.int n) => .ok n
  | .num (.decimal m e) => integerOfDouble (.ofDecimal m e)
  | .num (.infinity _) | .num .nan => .error .notFinite
  | .str s => integerOfText s
  | .null | .arr _ | .obj _ => .error .notInteger

end DiagramLint
