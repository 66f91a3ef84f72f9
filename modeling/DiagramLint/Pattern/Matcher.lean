/-
  Deciding whether a line begins as a pattern says.

  * `Pattern.leaves f p k s`: `p` may leave a rest of `s` that passes the test `k`.  The test is
    tried at once for each rest, the longest repetition first;
  * `Pattern.starts f p s`: `p` may take a first part of `s`.

  `Pattern.leaves_iff`: the matcher finds a rest exactly when `Consumes` allows one.
-/
import DiagramLint.Pattern.Basic

namespace DiagramLint

open Text

/-- What follows the word in the text, if the text begins with it. -/
def dropWord (f : Folding) : List Char → List Char → Option (List Char)
  | [], s => some s
  | _ :: _, [] => none
  | c :: w, d :: s => if f.fold c = f.fold d then dropWord f w s else none

/-- After some first characters that hold, none or more, what is left passes the test `k`. -/
def leavesMany (holds : Char → Bool) (k : List Char → Bool) : List Char → Bool
  | [] => k []
  | c :: s => (holds c && leavesMany holds k s) || k (c :: s)

/-- The pattern may take a first part of the text and leave a rest that passes the test `k`. -/
def Pattern.leaves (f : Folding) : Pattern → (List Char → Bool) → List Char → Bool
  | .text w, k, s => (dropWord f w.toList s).any k
  | .anyOf ws, k, s => ws.any fun w => (dropWord f w.toList s).any k
  | .one cls, k, s => match s with
    | [] => false
    | c :: r => cls.holds f c && k r
  | .many cls, k, s => leavesMany (cls.holds f) k s
  | .many1 cls, k, s => match s with
    | [] => false
    | c :: r => cls.holds f c && leavesMany (cls.holds f) k r
  | .opt p, k, s => p.leaves f k s || k s
  | .seq p q, k, s => p.leaves f (q.leaves f k) s
  | .notAhead cls, k, s => match s with
    | [] => k []
    | c :: r => !cls.holds f c && k (c :: r)
  | .lineEnd, k, s => (s == [] || s == ['\n']) && k s

/-- The text begins as the pattern says. -/
def Pattern.starts (f : Folding) (p : Pattern) (s : List Char) : Bool :=
  p.leaves f (fun _ => true) s

/-! ## The matcher decides the relation -/

theorem dropWord_eq_some_iff {f : Folding} {w s r : List Char} :
    dropWord f w s = some r ↔ ∃ v, SameWord f w v ∧ s = v ++ r := by
  induction w generalizing s with
  | nil =>
    constructor
    · intro h
      exact ⟨[], trivial, by simpa [dropWord] using h⟩
    · rintro ⟨v, hv, rfl⟩
      cases v with
      | nil => rfl
      | cons => exact hv.elim
  | cons c w ih =>
    cases s with
    | nil =>
      simp only [dropWord, reduceCtorEq, false_iff]
      rintro ⟨v, hv, h⟩
      cases v with
      | nil => exact hv
      | cons => simp at h
    | cons d s =>
      rw [dropWord]
      split
      · next hcd =>
        rw [ih]
        constructor
        · rintro ⟨v, hv, rfl⟩
          exact ⟨d :: v, ⟨hcd, hv⟩, rfl⟩
        · rintro ⟨v, hv, h⟩
          cases v with
          | nil => exact hv.elim
          | cons e v =>
            injection h with h₁ h₂
            exact ⟨v, hv.2, h₂⟩
      · next hcd =>
        simp only [reduceCtorEq, false_iff]
        rintro ⟨v, hv, h⟩
        cases v with
        | nil => exact hv
        | cons e v =>
          injection h with h₁ h₂
          exact hcd (h₁ ▸ hv.1)

theorem consumes_text_iff {f : Folding} {w : String} {s r : List Char} :
    Consumes f (.text w) s r ↔ dropWord f w.toList s = some r := by
  rw [dropWord_eq_some_iff]
  constructor
  · rintro ⟨h⟩
    exact ⟨_, h, rfl⟩
  · rintro ⟨v, h, rfl⟩
    exact .text h

theorem leavesMany_iff {f : Folding} {cls : CharClass} {k : List Char → Bool} {s : List Char} :
    leavesMany (cls.holds f) k s = true ↔ ∃ r, Consumes f (.many cls) s r ∧ k r = true := by
  induction s with
  | nil =>
    constructor
    · intro h
      exact ⟨[], .manyStop, h⟩
    · rintro ⟨r, ⟨⟩, hk⟩
      exact hk
  | cons c s ih =>
    simp only [leavesMany, Bool.or_eq_true, Bool.and_eq_true, ih]
    constructor
    · rintro (⟨hc, r, hr, hk⟩ | hk)
      · exact ⟨r, .manyMore hc hr, hk⟩
      · exact ⟨_, .manyStop, hk⟩
    · rintro ⟨r, hr, hk⟩
      cases hr with
      | manyStop => exact .inr hk
      | manyMore hc hr => exact .inl ⟨hc, r, hr, hk⟩

/-- **The matcher decides the relation.**  It finds a rest that passes the test exactly when the
    pattern may leave one. -/
theorem Pattern.leaves_iff {f : Folding} {p : Pattern} {k : List Char → Bool} {s : List Char} :
    p.leaves f k s = true ↔ ∃ r, Consumes f p s r ∧ k r = true := by
  induction p generalizing k s with
  | text w => simp [Pattern.leaves, Option.any_eq_true, consumes_text_iff]
  | anyOf ws =>
    simp only [Pattern.leaves, List.any_eq_true, Option.any_eq_true]
    constructor
    · rintro ⟨w, hw, r, hr, hk⟩
      exact ⟨r, .anyOf hw (consumes_text_iff.2 hr), hk⟩
    · rintro ⟨r, hr, hk⟩
      cases hr with
      | anyOf hw hr => exact ⟨_, hw, r, consumes_text_iff.1 hr, hk⟩
  | one cls =>
    cases s with
    | nil =>
      simp only [Pattern.leaves, Bool.false_eq_true, false_iff]
      rintro ⟨r, ⟨⟩, -⟩
    | cons c s =>
      simp only [Pattern.leaves, Bool.and_eq_true]
      constructor
      · rintro ⟨hc, hk⟩
        exact ⟨s, .one hc, hk⟩
      · rintro ⟨r, hr, hk⟩
        cases hr with
        | one hc => exact ⟨hc, hk⟩
  | many cls => exact leavesMany_iff
  | many1 cls =>
    cases s with
    | nil =>
      simp only [Pattern.leaves, Bool.false_eq_true, false_iff]
      rintro ⟨r, ⟨⟩, -⟩
    | cons c s =>
      simp only [Pattern.leaves, Bool.and_eq_true, leavesMany_iff]
      constructor
      · rintro ⟨hc, r, hr, hk⟩
        exact ⟨r, .many1 hc hr, hk⟩
      · rintro ⟨r, hr, hk⟩
        cases hr with
        | many1 hc hr => exact ⟨hc, r, hr, hk⟩
  | opt p ih =>
    simp only [Pattern.leaves, Bool.or_eq_true, ih]
    constructor
    · rintro (⟨r, hr, hk⟩ | hk)
      · exact ⟨r, .optTake hr, hk⟩
      · exact ⟨s, .optSkip, hk⟩
    · rintro ⟨r, hr, hk⟩
      cases hr with
      | optSkip => exact .inr hk
      | optTake hr => exact .inl ⟨r, hr, hk⟩
  | seq p q ihp ihq =>
    simp only [Pattern.leaves, ihp, ihq]
    constructor
    · rintro ⟨t, ht, r, hr, hk⟩
      exact ⟨r, .seq ht hr, hk⟩
    · rintro ⟨r, hr, hk⟩
      cases hr with
      | seq ht hr => exact ⟨_, ht, r, hr, hk⟩
  | notAhead cls =>
    cases s with
    | nil =>
      simp only [Pattern.leaves]
      constructor
      · intro hk
        exact ⟨[], .notAhead (by simp), hk⟩
      · rintro ⟨r, ⟨⟩, hk⟩
        exact hk
    | cons c s =>
      simp only [Pattern.leaves, Bool.and_eq_true, Bool.not_eq_true']
      constructor
      · rintro ⟨hc, hk⟩
        exact ⟨_, .notAhead (by rintro _ _ ⟨⟩; exact hc), hk⟩
      · rintro ⟨r, hr, hk⟩
        cases hr with
        | notAhead h => exact ⟨h c s rfl, hk⟩
  | lineEnd =>
    simp only [Pattern.leaves, Bool.and_eq_true, Bool.or_eq_true, beq_iff_eq]
    constructor
    · rintro ⟨hs, hk⟩
      exact ⟨s, .lineEnd hs, hk⟩
    · rintro ⟨r, hr, hk⟩
      cases hr with
      | lineEnd hs => exact ⟨hs, hk⟩

theorem Pattern.starts_iff {f : Folding} {p : Pattern} {s : List Char} :
    p.starts f s = true ↔ ∃ r, Consumes f p s r := by
  simp [Pattern.starts, Pattern.leaves_iff]

theorem Pattern.leaves_append {f : Folding} {p q : Pattern} {k : List Char → Bool}
    {s : List Char} : (p ++ q).leaves f k s = p.leaves f (q.leaves f k) s := rfl

end DiagramLint
