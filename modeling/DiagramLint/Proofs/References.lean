/-
  Which line a message refers to.

  * `RefersAt s i`: at position `i` of the text there is the word, its case disregarded, and a digit
    directly behind it;
  * `digitsAt s i`: the digits behind the word at position `i`, as many as there are.

  `referenceDigits?_of_first`: the leftmost reference counts, with all of its digits.
  `referenceDigits?_append_cons`: no reference crosses a character that ends one and does not occur in
  the word behind its first letter.
-/
import DiagramLint.Proofs.Containment

namespace DiagramLint

open Text

variable {s a b : List Char} {x : Char} {i : Nat} {m : String}

/-! ## Where references stand -/

/-- A reference stands at position `i`. -/
def RefersAt (s : List Char) (i : Nat) : Prop :=
  ∃ w d rest, s.drop i = w ++ d :: rest ∧ w.map fold = referenceWord ∧ d.isDigit = true

/-- The digits of a reference at position `i`. -/
def digitsAt (s : List Char) (i : Nat) : List Char :=
  (s.drop (i + referenceWord.length)).takeWhile Char.isDigit

theorem digitsAt_cons_succ (c : Char) : digitsAt (c :: s) (i + 1) = digitsAt s i := by
  rw [digitsAt, digitsAt, Nat.add_right_comm, List.drop_succ_cons]

theorem length_of_map_fold {w : List Char} (h : w.map fold = referenceWord) : w.length = 5 := by
  rw [← List.length_map (f := fold), h]
  rfl

/-- What is read at the beginning is a reference that stands there. -/
theorem digitsHere_of_refersAt (h : RefersAt s 0) :
    digitsHere s = digitsAt s 0 ∧ digitsHere s ≠ [] := by
  obtain ⟨w, d, rest, he, hw, hd⟩ := h
  rw [List.drop_zero] at he
  subst he
  have hl : w.length = 5 := length_of_map_fold hw
  have hdrop : (w ++ d :: rest).drop 5 = d :: rest := by rw [← hl, List.drop_left]
  have htake : (w ++ d :: rest).take 5 = w := by rw [← hl, List.take_left]
  rw [digitsHere, digitsAt, htake, if_pos hw]
  refine ⟨rfl, ?_⟩
  rw [hdrop, List.takeWhile_cons_of_pos hd]
  exact List.cons_ne_nil d _

theorem refersAt_of_digitsHere_ne_nil (h : digitsHere s ≠ []) : RefersAt s 0 := by
  unfold digitsHere at h
  split at h
  · next hw =>
    cases hs : s.drop 5 with
    | nil =>
      rw [hs] at h
      exact absurd rfl h
    | cons d rest =>
      refine ⟨s.take 5, d, rest, ?_, hw, ?_⟩
      · rw [List.drop_zero, ← hs, List.take_append_drop]
      · by_contra hd
        rw [hs, List.takeWhile_cons_of_neg hd] at h
        exact h rfl
  · exact absurd rfl h

theorem refersAt_zero_iff : RefersAt s 0 ↔ digitsHere s ≠ [] :=
  ⟨fun h => (digitsHere_of_refersAt h).2, refersAt_of_digitsHere_ne_nil⟩

instance (s : List Char) (i : Nat) : Decidable (RefersAt s i) :=
  decidable_of_iff (digitsHere (s.drop i) ≠ []) (refersAt_zero_iff (s := s.drop i)).symm

/-! ## The leftmost reference -/

theorem referenceDigits?_cons_of_not (c : Char) (h : ¬ RefersAt (c :: s) 0) :
    referenceDigits? (c :: s) = referenceDigits? s := by
  have hnil : digitsHere (c :: s) = [] := not_not.1 (mt refersAt_zero_iff.2 h)
  rw [referenceDigits?, hnil]

theorem referenceDigits?_cons_of_refersAt (c : Char) (h : RefersAt (c :: s) 0) :
    referenceDigits? (c :: s) = some (digitsAt (c :: s) 0) := by
  obtain ⟨he, hne⟩ := digitsHere_of_refersAt h
  rw [referenceDigits?, ← he]
  split
  · next hnil => exact absurd hnil hne
  · rfl

theorem not_refersAt_nil : ¬ RefersAt [] i := by
  rintro ⟨w, d, rest, he, -, -⟩
  simp at he

theorem referenceDigits?_eq_none_iff : referenceDigits? s = none ↔ ∀ i, ¬ RefersAt s i := by
  induction s with
  | nil => exact ⟨fun _ _ => not_refersAt_nil, fun _ => rfl⟩
  | cons c s ih =>
    by_cases h : RefersAt (c :: s) 0
    · rw [referenceDigits?_cons_of_refersAt c h]
      constructor
      · rintro ⟨⟩
      · intro hn
        exact absurd h (hn 0)
    · rw [referenceDigits?_cons_of_not c h, ih]
      constructor
      · intro hn i
        cases i with
        | zero => exact h
        | succ i => exact hn i
      · intro hn i
        exact hn (i + 1)

/-- **The leftmost reference counts**, with all of its digits, whatever stands behind. -/
theorem referenceDigits?_of_first (h : RefersAt s i) (hf : ∀ j < i, ¬ RefersAt s j) :
    referenceDigits? s = some (digitsAt s i) := by
  induction s generalizing i with
  | nil => exact absurd h not_refersAt_nil
  | cons c s ih =>
    cases i with
    | zero => exact referenceDigits?_cons_of_refersAt c h
    | succ i =>
      rw [referenceDigits?_cons_of_not c (hf 0 (Nat.succ_pos i)), digitsAt_cons_succ]
      refine ih h fun j hj => ?_
      exact hf (j + 1) (Nat.succ_lt_succ hj)

/-! ## References in texts that are put together -/

/-- A digit run ends before a character that is no digit. -/
theorem takeWhile_isDigit_append_cons (hx : x.isDigit = false) :
    (a ++ x :: b).takeWhile Char.isDigit = a.takeWhile Char.isDigit := by
  rw [List.takeWhile_append, List.takeWhile_cons_of_neg (by simp [hx]), List.append_nil]
  split
  · next hl => exact ((List.takeWhile_prefix _).eq_of_length hl).symm
  · rfl

/-- Nothing that begins in the first part reaches beyond a character of this kind. -/
theorem digitsHere_append_cons (hx : x.isDigit = false) (hf : fold x ∉ referenceWord.tail)
    (ha : a ≠ []) : digitsHere (a ++ x :: b) = digitsHere a := by
  unfold digitsHere
  by_cases hl : 5 ≤ a.length
  · rw [List.take_append_of_le_length hl, List.drop_append_of_le_length hl,
      takeWhile_isDigit_append_cons hx]
  · have hshort : ¬ (a.take 5).map fold = referenceWord := by
      intro h
      have hlen := length_of_map_fold h
      rw [List.length_take] at hlen
      omega
    have hcross : ¬ ((a ++ x :: b).take 5).map fold = referenceWord := by
      intro h
      have hpos : 0 < a.length := List.length_pos_of_ne_nil ha
      -- the character would stand in the word, behind its first letter
      have hget : referenceWord[a.length]? = some (fold x) := by
        rw [← h, List.getElem?_map, List.getElem?_take_of_lt (by omega), List.getElem?_append_right
          (Nat.le_refl _), Nat.sub_self]
        rfl
      refine hf (List.mem_of_getElem? (i := a.length - 1) ?_)
      rw [List.getElem?_tail, Nat.sub_add_cancel hpos, hget]
    rw [if_neg hshort, if_neg hcross]

/-- **The first part decides if it holds a reference**, and otherwise the rest does. -/
theorem referenceDigits?_append_cons (hx : x.isDigit = false) (hf : fold x ∉ referenceWord.tail) :
    referenceDigits? (a ++ x :: b) = (referenceDigits? a).or (referenceDigits? (x :: b)) := by
  induction a with
  | nil => rfl
  | cons c a ih =>
    have hd : digitsHere (c :: (a ++ x :: b)) = digitsHere (c :: a) :=
      digitsHere_append_cons hx hf (List.cons_ne_nil c a)
    rw [List.cons_append, referenceDigits?, referenceDigits?, hd, ih]
    split <;> rfl

/-- Behind a text without a reference, the word and digits are the first one. -/
theorem referenceDigits?_append_line {ds : List Char} (ha : referenceDigits? a = none)
    (hne : ds ≠ []) (hd : ∀ c ∈ ds, c.isDigit = true) (hb : ∀ c ∈ b.head?, c.isDigit = false) :
    referenceDigits? (a ++ (referenceWord ++ (ds ++ b))) = some ds := by
  obtain ⟨d, ds', rfl⟩ := List.exists_cons_of_ne_nil hne
  have hword : referenceWord ++ (d :: ds' ++ b) = 'l' :: ("ine ".toList ++ (d :: ds' ++ b)) := rfl
  have hrefers : RefersAt (referenceWord ++ (d :: ds' ++ b)) 0 :=
    ⟨referenceWord, d, ds' ++ b, rfl, by decide, hd d List.mem_cons_self⟩
  have hdigits : digitsAt (referenceWord ++ (d :: ds' ++ b)) 0 = d :: ds' := by
    rw [digitsAt, Nat.zero_add, List.drop_left]
    cases b with
    | nil => rw [List.append_nil, takeWhile_isDigit_eq_self hd]
    | cons x b => rw [takeWhile_isDigit_append_cons (hb x rfl), takeWhile_isDigit_eq_self hd]
  rw [hword, referenceDigits?_append_cons (by decide) (by decide), ha, Option.none_or, ← hword,
    referenceDigits?_of_first hrefers (by simp), hdigits]

/-! ## The number of a reference -/

theorem lineReference_of_digits {ds : List Char} (h : referenceDigits? m.toList = some ds) :
    lineReference m = if ds.length ≤ maxReferenceDigits then .ok (some (Nat.ofDigitChars 10 ds 0))
      else .error ⟨ds.length⟩ := by
  rw [lineReference, h]
  show (readReference ds).map some = _
  rw [readReference]
  split <;> rfl

theorem lineReference_eq_ok_none_iff :
    lineReference m = .ok none ↔ ∀ i, ¬ RefersAt m.toList i := by
  rw [← referenceDigits?_eq_none_iff]
  cases h : referenceDigits? m.toList with
  | none => simp [lineReference, h]
  | some ds =>
    rw [lineReference_of_digits h]
    split <;> simp

theorem lineReference_congr {m' : String}
    (h : referenceDigits? m.toList = referenceDigits? m'.toList) :
    lineReference m = lineReference m' := by
  rw [lineReference, lineReference, h]

theorem lineReference_append_newline (m m' : String) :
    ((∃ i, RefersAt m.toList i) → lineReference (m ++ "\n" ++ m') = lineReference m) ∧
    ((∀ i, ¬ RefersAt m.toList i) → lineReference (m ++ "\n" ++ m') = lineReference m') := by
  have happ : referenceDigits? (m ++ "\n" ++ m').toList =
      (referenceDigits? m.toList).or (referenceDigits? m'.toList) := by
    have htext : (m ++ "\n" ++ m').toList = m.toList ++ '\n' :: m'.toList := by simp
    have hnone : ¬ RefersAt ('\n' :: m'.toList) 0 := by
      rintro ⟨w, d, rest, he, hw, -⟩
      cases w with
      | nil => cases hw
      | cons c w =>
        injection he with hc
        rw [← hc] at hw
        cases congrArg List.head? hw
    rw [htext, referenceDigits?_append_cons (by decide) (by decide),
      referenceDigits?_cons_of_not _ hnone]
  constructor
  · intro h
    cases hm : referenceDigits? m.toList with
    | none =>
      obtain ⟨i, hi⟩ := h
      exact absurd hi (referenceDigits?_eq_none_iff.1 hm i)
    | some ds => exact lineReference_congr (by rw [happ, hm, Option.some_or])
  · intro h
    exact lineReference_congr (by rw [happ, referenceDigits?_eq_none_iff.2 h, Option.none_or])

/-- A number that is written behind the word is read back. -/
theorem lineReference_append_line {p q : String} {n : Nat} (hp : ∀ i, ¬ RefersAt p.toList i)
    (hn : (toString n).length ≤ 4300) (hq : ∀ c ∈ q.toList.head?, c.isDigit = false) :
    lineReference (p ++ "line " ++ toString n ++ q) = .ok (some n) := by
  have hnumber : (toString n).toList = Nat.toDigits 10 n := by
    rw [Nat.toString_eq_repr, Nat.toList_repr]
  have hdigits : ∀ c ∈ Nat.toDigits 10 n, c.isDigit = true := by
    intro c hc
    exact Nat.isDigit_of_mem_toDigits (by omega) (by omega) hc
  have htext : (p ++ "line " ++ toString n ++ q).toList =
      p.toList ++ (referenceWord ++ (Nat.toDigits 10 n ++ q.toList)) := by
    simp [referenceWord]
  have hfirst : referenceDigits? (p ++ "line " ++ toString n ++ q).toList =
      some (Nat.toDigits 10 n) := by
    rw [htext]
    exact referenceDigits?_append_line (referenceDigits?_eq_none_iff.2 hp)
      (List.ne_nil_of_length_pos Nat.length_toDigits_pos) hdigits hq
  have hlength : (Nat.toDigits 10 n).length ≤ maxReferenceDigits := by
    rw [← hnumber, String.length_toList]
    exact hn
  rw [lineReference_of_digits hfirst, if_pos hlength,
    Nat.ofDigitChars_toDigits (by omega) (by omega)]

/-- **The leftmost reference of a message counts, and all of it is read.**  There is none exactly if
    the word stands nowhere with a digit directly behind it.  Otherwise all digits behind the leftmost
    such word are read as a number, or refused if there are too many.  So a number that is written
    behind the word is read back, whatever stands around it, as long as there is no reference in front
    and no digit behind; and of two lines the first one decides if it holds a reference. -/
theorem lineReference_leftmost :
    (∀ m : Option String,
      (lineReferenceOf m = .ok none ↔ ∀ i, ¬ RefersAt (m.getD "").toList i) ∧
      ∀ i, RefersAt (m.getD "").toList i → (∀ j < i, ¬ RefersAt (m.getD "").toList j) →
        let ds := digitsAt (m.getD "").toList i
        lineReferenceOf m = if ds.length ≤ 4300 then .ok (some (Nat.ofDigitChars 10 ds 0))
          else .error ⟨ds.length⟩) ∧
    (∀ (p : String) (n : Nat) (q : String), (∀ i, ¬ RefersAt p.toList i) →
      (toString n).length ≤ 4300 → (∀ c ∈ q.toList.head?, c.isDigit = false) →
      lineReferenceOf (some (p ++ "line " ++ toString n ++ q)) = .ok (some n)) ∧
    ∀ m m' : String,
      ((∃ i, RefersAt m.toList i) →
        lineReferenceOf (some (m ++ "\n" ++ m')) = lineReferenceOf (some m)) ∧
      ((∀ i, ¬ RefersAt m.toList i) →
        lineReferenceOf (some (m ++ "\n" ++ m')) = lineReferenceOf (some m')) := by
  refine ⟨fun m => ⟨lineReference_eq_ok_none_iff, ?_⟩, ?_, lineReference_append_newline⟩
  · intro i h hf
    exact lineReference_of_digits (referenceDigits?_of_first h hf)
  · intro p n q hp hn hq
    exact lineReference_append_line hp hn hq

/-- The word may stand in front of itself, inside another word and in other letters, and zeros may
    stand in front of the number. -/
theorem lineReference_leftmost_deadline :
    let m := "line deadl\u0131nE 007, line 3"
    (RefersAt m.toList 9 ∧ (∀ j < 9, ¬ RefersAt m.toList j) ∧
      lineReferenceOf (some m) = .ok (some 7)) ∧
    ((∀ i, ¬ RefersAt "line ".toList i) ∧
      lineReferenceOf (some ("line " ++ "line " ++ toString 5 ++ " of 9")) = .ok (some 5)) ∧
    lineReferenceOf (some (m ++ "\n" ++ "line 8")) = lineReferenceOf (some m) ∧
    lineReferenceOf (some ("line " ++ "\n" ++ "line 8")) = lineReferenceOf (some "line 8") := by
  intro m
  have hm : RefersAt m.toList 9 := by decide
  have hfirst : ∀ j < 9, ¬ RefersAt m.toList j := by decide
  have hnone : ∀ i, ¬ RefersAt "line ".toList i :=
    referenceDigits?_eq_none_iff.1 (by decide)
  have hblank : ∀ c ∈ " of 9".toList.head?, c.isDigit = false := by
    intro c hc
    rw [← Option.some.inj (Option.mem_def.1 hc)]
    rfl
  obtain ⟨hleft, hback, hlines⟩ := lineReference_leftmost
  refine ⟨⟨hm, hfirst, ?_⟩, ⟨hnone, ?_⟩, ?_, ?_⟩
  · exact ((hleft (some m)).2 9 hm hfirst).trans (by decide)
  · exact hback "line " 5 " of 9" hnone (by decide) hblank
  · exact (hlines m "line 8").1 ⟨9, hm⟩
  · exact (hlines "line " "line 8").2 hnone

end DiagramLint
