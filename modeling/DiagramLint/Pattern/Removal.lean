/-
  Taking out of a text what matches.

  There may be several ways to match at a place.  They are tried in an order, alternatives as they
  are listed and the longest repetition first, and the first way counts.

  * `Pattern.rests f p s`: what a pattern may leave of a text, in the order in which it is tried;
  * `Branch`: an alternative, which may be bound to the beginning of the text;
  * `waysHere` and `restHere?`: what is left behind the matches at a place, and behind the one that
    counts;
  * `remove bs s`: the text without its matches, which are found from left to right.

  `Pattern.mem_rests_iff`: the rests of a pattern are those that `Consumes` allows.
  `removeFrom_cons_of_some` and `removeFrom_cons_of_none`: removal, place by place.
-/
import DiagramLint.Pattern.Matcher

namespace DiagramLint

open Text

/-! ## The rests in their order -/

/-- What may be left behind some first characters that hold, the longest run first. -/
def restsMany (holds : Char → Bool) : List Char → List (List Char)
  | [] => [[]]
  | c :: s => (if holds c then restsMany holds s else []) ++ [c :: s]

/-- What the pattern may leave of the text. -/
def Pattern.rests (f : Folding) : Pattern → List Char → List (List Char)
  | .text w, s => (dropWord f w.toList s).toList
  | .anyOf ws, s => ws.flatMap fun w => (dropWord f w.toList s).toList
  | .one cls, s => match s with
    | [] => []
    | c :: r => if cls.holds f c then [r] else []
  | .many cls, s => restsMany (cls.holds f) s
  | .many1 cls, s => match s with
    | [] => []
    | c :: r => if cls.holds f c then restsMany (cls.holds f) r else []
  | .opt p, s => p.rests f s ++ [s]
  | .seq p q, s => (p.rests f s).flatMap (q.rests f)
  | .notAhead cls, s => match s with
    | [] => [[]]
    | c :: r => if cls.holds f c = false then [c :: r] else []
  | .lineEnd, s => if s == [] || s == ['\n'] then [s] else []

variable {f : Folding} {p : Pattern} {c : Char} {s r : List Char}

theorem mem_restsMany_iff {cls : CharClass} :
    r ∈ restsMany (cls.holds f) s ↔ Consumes f (.many cls) s r := by
  induction s with
  | nil =>
    rw [restsMany, List.mem_singleton]
    constructor
    · rintro rfl
      exact .manyStop
    · rintro ⟨⟩
      rfl
  | cons c s ih =>
    rw [restsMany, List.mem_append, List.mem_ite_nil_right, ih, List.mem_singleton]
    constructor
    · rintro (⟨hc, h⟩ | rfl)
      · exact .manyMore hc h
      · exact .manyStop
    · intro h
      cases h with
      | manyStop => exact .inr rfl
      | manyMore hc h => exact .inl ⟨hc, h⟩

/-- **The rests of a pattern are those that it may leave.** -/
theorem Pattern.mem_rests_iff : r ∈ p.rests f s ↔ Consumes f p s r := by
  induction p generalizing s r with
  | text w => rw [rests, Option.mem_toList, consumes_text_iff]
  | anyOf ws =>
    simp only [rests, List.mem_flatMap, Option.mem_toList, ← consumes_text_iff]
    constructor
    · rintro ⟨w, hw, h⟩
      exact .anyOf hw h
    · intro h
      cases h with
      | anyOf hw h => exact ⟨_, hw, h⟩
  | one cls =>
    cases s with
    | nil => exact ⟨fun h => (List.not_mem_nil h).elim, by rintro ⟨⟩⟩
    | cons c s =>
      rw [rests, List.mem_ite_nil_right, List.mem_singleton]
      constructor
      · rintro ⟨hc, rfl⟩
        exact .one hc
      · intro h
        cases h with
        | one hc => exact ⟨hc, rfl⟩
  | many cls => exact mem_restsMany_iff
  | many1 cls =>
    cases s with
    | nil => exact ⟨fun h => (List.not_mem_nil h).elim, by rintro ⟨⟩⟩
    | cons c s =>
      rw [rests, List.mem_ite_nil_right, mem_restsMany_iff]
      constructor
      · rintro ⟨hc, h⟩
        exact .many1 hc h
      · intro h
        cases h with
        | many1 hc h => exact ⟨hc, h⟩
  | opt p ih =>
    rw [rests, List.mem_append, ih, List.mem_singleton]
    constructor
    · rintro (h | rfl)
      · exact .optTake h
      · exact .optSkip
    · intro h
      cases h with
      | optSkip => exact .inr rfl
      | optTake h => exact .inl h
  | seq p q ihp ihq =>
    simp only [rests, List.mem_flatMap, ihp, ihq]
    constructor
    · rintro ⟨t, hp, hq⟩
      exact .seq hp hq
    · intro h
      cases h with
      | seq hp hq => exact ⟨_, hp, hq⟩
  | notAhead cls =>
    cases s with
    | nil =>
      rw [rests, List.mem_singleton]
      constructor
      · rintro rfl
        exact .notAhead (by rintro _ _ ⟨⟩)
      · rintro ⟨⟩
        rfl
    | cons c s =>
      rw [rests, List.mem_ite_nil_right, List.mem_singleton]
      constructor
      · rintro ⟨hc, rfl⟩
        exact .notAhead (by rintro _ _ ⟨⟩; exact hc)
      · intro h
        cases h with
        | notAhead hc => exact ⟨hc c s rfl, rfl⟩
  | lineEnd =>
    rw [rests, List.mem_ite_nil_right, List.mem_singleton, Bool.or_eq_true, beq_iff_eq, beq_iff_eq]
    constructor
    · rintro ⟨hs, rfl⟩
      exact .lineEnd hs
    · intro h
      cases h with
      | lineEnd hs => exact ⟨hs, rfl⟩

/-- A pattern takes a first part of the text and leaves the rest. -/
theorem Consumes.suffix (h : Consumes f p s r) : r <:+ s := by
  induction h with
  | text => exact List.suffix_append _ _
  | anyOf _ _ ih | optTake _ ih => exact ih
  | one => exact List.suffix_cons _ _
  | manyMore _ _ ih | many1 _ _ ih => exact ih.trans (List.suffix_cons _ _)
  | seq _ _ ihp ihq => exact ihq.trans ihp
  | manyStop | optSkip | notAhead | lineEnd => exact List.suffix_rfl

/-! ## Removal -/

/-- An alternative of an expression that is looked for in a text. -/
structure Branch where
  /-- It matches at the beginning of the text only. -/
  anchored : Bool
  pattern : Pattern
  deriving Repr, DecidableEq

/-- What the alternatives may leave of the text, in the order in which they are tried.  The anchored
    ones are tried only if this is the first place of all. -/
def waysHere (bs : List Branch) (first : Bool) (s : List Char) : List (List Char) :=
  bs.flatMap fun b => if b.anchored && !first then [] else b.pattern.rests .exact s

/-- What is left behind the match at the beginning of the text, if something matches there.  A match
    of no characters removes nothing. -/
def restHere? (bs : List Branch) (first : Bool) (s : List Char) : Option (List Char) :=
  (waysHere bs first s).find? (·.length < s.length)

/-- The text without its matches, where `skip` characters still belong to the last match. -/
def removeFrom (bs : List Branch) (first : Bool) : (skip : Nat) → List Char → List Char
  | _, [] => []
  | skip + 1, _ :: s => removeFrom bs false skip s
  | 0, c :: s => match restHere? bs first (c :: s) with
    | some r => removeFrom bs false (s.length - r.length) s
    | none => c :: removeFrom bs false 0 s

/-- The text without its matches.  Each is looked for behind the one before. -/
def remove (bs : List Branch) (s : List Char) : List Char := removeFrom bs true 0 s

variable {bs : List Branch} {first : Bool}

/-- A match takes the first character, and leaves an end of the text behind it. -/
theorem suffix_of_restHere? (h : restHere? bs first (c :: s) = some r) : r <:+ s := by
  have hlen : r.length < (c :: s).length := by simpa using List.find?_some h
  obtain ⟨b, -, hb⟩ := List.mem_flatMap.1 (List.mem_of_find?_eq_some h)
  split at hb
  · cases hb
  · rcases List.suffix_cons_iff.1 (Pattern.mem_rests_iff.1 hb).suffix with rfl | hr
    · exact absurd hlen (Nat.lt_irrefl _)
    · exact hr

theorem removeFrom_skip (n : Nat) (s : List Char) :
    removeFrom bs false n s = removeFrom bs false 0 (s.drop n) := by
  induction s generalizing n with
  | nil => cases n <;> rfl
  | cons c s ih =>
    cases n with
    | zero => rfl
    | succ n => rw [removeFrom, ih, List.drop_succ_cons]

@[simp] theorem removeFrom_nil : removeFrom bs first 0 [] = [] := rfl

/-- Where something matches, removal goes on behind the match. -/
theorem removeFrom_cons_of_some (h : restHere? bs first (c :: s) = some r) :
    removeFrom bs first 0 (c :: s) = removeFrom bs false 0 r := by
  have hdrop : s.drop (s.length - r.length) = r :=
    (List.suffix_iff_eq_drop.1 (suffix_of_restHere? h)).symm
  rw [removeFrom, h]
  show removeFrom bs false (s.length - r.length) s = _
  rw [removeFrom_skip, hdrop]

/-- Where nothing matches, the character stays. -/
theorem removeFrom_cons_of_none (h : restHere? bs first (c :: s) = none) :
    removeFrom bs first 0 (c :: s) = c :: removeFrom bs false 0 s := by
  rw [removeFrom, h]

end DiagramLint
