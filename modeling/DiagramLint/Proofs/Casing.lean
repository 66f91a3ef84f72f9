/-
  Case, in texts and in patterns.

  * `isPlain c`: the character is of ASCII or blank;
  * `Pattern.Blind f φ ψ p`: the pattern does not see which of two functions made a text.

  `starts_of_blind`: such a pattern begins the one text where it begins the other.
  `starts_map_fold`: to disregard case is to read the folded text.  `exists_lower`: as far as plain
  characters go, lower case and `fold` disagree on the dotted capital U+0130 only.
-/
import DiagramLint.Pattern.Matcher
import DiagramLint.Text.Lower

namespace DiagramLint

open Text

namespace Text

/-! ## Folding -/

/-- What holds of the characters that `fold` treats one by one, and of all those that it leaves
    alone, holds of every character. -/
theorem fold_cases {P : Char → Prop} (small : ∀ n < 128, P (Char.ofNat n))
    (special : P '\u0130' ∧ P '\u0131' ∧ P '\u017F' ∧ P '\u212A')
    (large : ∀ c : Char, 128 ≤ c.toNat → fold c = c → P c) (c : Char) : P c := by
  refine ascii_cases small (fun c hc => ?_) c
  obtain ⟨h₁, h₂, h₃, h₄⟩ := special
  by_cases hs : c = '\u0130' ∨ c = '\u0131' ∨ c = '\u017F' ∨ c = '\u212A'
  · rcases hs with rfl | rfl | rfl | rfl <;> assumption
  · exact large c hc (by simp_all [fold, toLower_of_ge hc])

@[simp] theorem isBlank_fold (c : Char) : isBlank (fold c) = isBlank c :=
  fold_cases (P := fun c => isBlank (fold c) = isBlank c) (by decide +kernel) (by decide +kernel)
    (fun _ _ h => by rw [h]) c

@[simp] theorem fold_beq_newline (c : Char) : (fold c == '\n') = (c == '\n') :=
  fold_cases (P := fun c => (fold c == '\n') = (c == '\n')) (by decide +kernel) (by decide +kernel)
    (fun _ _ h => by rw [h]) c

/-! ## Folding and lower case -/

/-- The character is of ASCII, or blank. -/
def isPlain (c : Char) : Bool := c.toNat < 128 || isBlank c

/-- The characters whose folded form is plain. -/
def plainRanges : List (Nat × Nat) :=
  [(0, 127), (0x0130, 0x0131), (0x017F, 0x017F), (0x212A, 0x212A)] ++ blankRanges

theorem inRanges_of_isPlain_fold {c : Char} (h : isPlain (fold c) = true) :
    inRanges plainRanges c = true := by
  refine fold_cases (P := fun c => isPlain (fold c) = true → inRanges plainRanges c = true)
    (by decide +kernel) (by decide +kernel) (fun c hc hf h => ?_) c h
  rw [hf, isPlain, decide_eq_false (Nat.not_lt.2 hc), Bool.false_or, isBlank, inRanges_iff] at h
  obtain ⟨r, hr, hcr⟩ := h
  exact inRanges_iff.2 ⟨r, List.mem_append_right _ hr, hcr⟩

/-- Outside ASCII and but for the Kelvin sign, neither the capitals of a run nor their small letters
    have a plain folded form. -/
theorem notMem_plainRanges_of_covers {r : CaseRun} (hr : r ∈ caseRuns) {n : Nat} (hn : 128 ≤ n)
    (hk : n ≠ 0x212A) (hc : r.covers n = true) {b : Nat × Nat} (hb : b ∈ plainRanges) :
    ¬ (b.1 ≤ n ∧ n ≤ b.2) ∧ ¬ (b.1 ≤ r.lower n ∧ r.lower n ≤ b.2) := by
  have table : ∀ r ∈ caseRuns, r.last < 128 ∨ (r.first = 0x212A ∧ r.last = 0x212A) ∨
      0 ≤ r.first + r.shift ∧ ∀ b ∈ plainRanges, (r.last < b.1 ∨ b.2 < r.first) ∧
        (r.last + r.shift < b.1 ∨ b.2 < r.first + r.shift) := by decide +kernel
  simp only [CaseRun.covers, Bool.and_eq_true, decide_eq_true_eq] at hc
  unfold CaseRun.lower
  rcases table r hr with h | ⟨h₁, h₂⟩ | ⟨h₁, h₂⟩
  · omega
  · omega
  · have := h₂ b hb
    omega

/-- Apart from U+0130, the small form of a character is one character with the same folded form, or
    neither folded form is plain. -/
theorem exists_lower {c : Char} (hc : c ≠ '\u0130') : ∃ x, lower c = [x] ∧
    (fold x = fold c ∨ isPlain (fold x) = false ∧ isPlain (fold c) = false) := by
  by_cases ha : c.toNat < 128
  · refine ⟨c.toLower, lower_of_lt ha, .inl ?_⟩
    have table : ∀ n < 128, fold (Char.ofNat n).toLower = fold (Char.ofNat n) := by
      decide +kernel
    simpa using table c.toNat ha
  by_cases hk : c = '\u212A'
  · subst hk
    exact ⟨'k', by decide +kernel, .inl (by decide)⟩
  rw [lower, if_neg hc]
  split
  · next r hr =>
    have hm := List.mem_of_find?_eq_some hr
    have hcov := List.find?_some hr
    have hk' : c.toNat ≠ 0x212A := fun e => hk (by rw [← Char.ofNat_toNat c, e])
    have hout := fun b (hb : b ∈ plainRanges) =>
      notMem_plainRanges_of_covers hm (Nat.not_lt.1 ha) hk' hcov hb
    refine ⟨_, rfl, .inr ⟨?_, ?_⟩⟩
    · rw [← Bool.not_eq_true]
      intro hp
      obtain ⟨b, hb, hcb⟩ := inRanges_iff.1 (inRanges_of_isPlain_fold hp)
      rw [toNat_ofNat (isValidChar_of_mem_caseRuns hm hcov)] at hcb
      exact (hout b hb).2 hcb
    · rw [← Bool.not_eq_true]
      intro hp
      obtain ⟨b, hb, hcb⟩ := inRanges_iff.1 (inRanges_of_isPlain_fold hp)
      exact (hout b hb).1 hcb
  · exact ⟨c, rfl, .inl rfl⟩

theorem isBlank_eq_false_of_not_isPlain {c : Char} (h : isPlain c = false) : isBlank c = false := by
  simp only [isPlain, Bool.or_eq_false_iff] at h
  exact h.2

theorem beq_newline_eq_false_of_not_isPlain {c : Char} (h : isPlain c = false) :
    (c == '\n') = false := by
  rw [beq_eq_false_iff_ne]
  rintro rfl
  cases h

theorem of_mem_lower {c x : Char} (hx : x ∈ lower c) :
    isBlank x = isBlank c ∧ (x == '\n') = (c == '\n') := by
  by_cases hc : c = '\u0130'
  · subst hc
    have hl : lower '\u0130' = ['i', '\u0307'] := rfl
    rw [hl, List.mem_cons, List.mem_singleton] at hx
    rcases hx with rfl | rfl <;> decide
  obtain ⟨y, hy, h⟩ := exists_lower hc
  rw [hy, List.mem_singleton] at hx
  subst hx
  rw [← isBlank_fold x, ← isBlank_fold c, ← fold_beq_newline x, ← fold_beq_newline c]
  rcases h with h | ⟨h, h'⟩
  · rw [h]
    exact ⟨rfl, rfl⟩
  · rw [isBlank_eq_false_of_not_isPlain h, isBlank_eq_false_of_not_isPlain h',
      beq_newline_eq_false_of_not_isPlain h, beq_newline_eq_false_of_not_isPlain h']
    exact ⟨rfl, rfl⟩

end Text

/-! ## Patterns that see no difference -/

section blind

variable {γ : Type} {f : Folding} {φ ψ : γ → Char} {k k' : List Char → Bool}

/-- The word is met by what `φ` makes of a text where it is met by what `ψ` makes of it. -/
def BlindWord (f : Folding) (φ ψ : γ → Char) (w : List Char) : Prop :=
  ∀ d ∈ w, ∀ c, f.fold d = f.fold (φ c) ↔ f.fold d = f.fold (ψ c)

/-- The class holds of what `φ` makes of a code where it holds of what `ψ` makes of it. -/
def CharClass.Blind (f : Folding) (φ ψ : γ → Char) (cls : CharClass) : Prop :=
  ∀ c, cls.holds f (φ c) = cls.holds f (ψ c)

/-- The pattern does not see whether `φ` or `ψ` made the text. -/
def Pattern.Blind (f : Folding) (φ ψ : γ → Char) : Pattern → Prop
  | .text w => BlindWord f φ ψ w.toList
  | .anyOf ws => ∀ w ∈ ws, BlindWord f φ ψ w.toList
  | .one cls | .many cls | .many1 cls | .notAhead cls => cls.Blind f φ ψ
  | .opt p => p.Blind f φ ψ
  | .seq p q => p.Blind f φ ψ ∧ q.Blind f φ ψ
  | .lineEnd => ∀ c, (φ c == '\n') = (ψ c == '\n')

theorem any_dropWord_of_blind {w : List Char} (hw : BlindWord f φ ψ w)
    (hk : ∀ s : List γ, k (s.map φ) = k' (s.map ψ)) (s : List γ) :
    (dropWord f w (s.map φ)).any k = (dropWord f w (s.map ψ)).any k' := by
  induction w generalizing s with
  | nil => simp [dropWord, hk]
  | cons d w ih =>
    obtain ⟨hd, hw⟩ := List.forall_mem_cons.1 hw
    cases s with
    | nil => rfl
    | cons c s =>
      simp only [List.map_cons, dropWord, hd c]
      split
      · exact ih hw s
      · rfl

theorem leavesMany_of_blind {cls : CharClass} (hc : cls.Blind f φ ψ)
    (hk : ∀ s : List γ, k (s.map φ) = k' (s.map ψ)) (s : List γ) :
    leavesMany (cls.holds f) k (s.map φ) = leavesMany (cls.holds f) k' (s.map ψ) := by
  induction s with
  | nil => exact hk []
  | cons c s ih =>
    rw [List.map_cons, List.map_cons, leavesMany, leavesMany, hc c, ih, ← List.map_cons, hk,
      List.map_cons]

/-- A matcher that sees no difference sees none in what it leaves. -/
theorem Pattern.leaves_of_blind {p : Pattern} (hp : p.Blind f φ ψ)
    (hk : ∀ s : List γ, k (s.map φ) = k' (s.map ψ)) (s : List γ) :
    p.leaves f k (s.map φ) = p.leaves f k' (s.map ψ) := by
  induction p generalizing k k' s with
  | text w => exact any_dropWord_of_blind hp hk s
  | anyOf ws =>
    rw [Pattern.leaves, Pattern.leaves, Bool.eq_iff_iff]
    simp only [List.any_eq_true]
    exact exists_congr fun w => and_congr_right fun hw => by
      rw [any_dropWord_of_blind (hp w hw) hk]
  | one cls =>
    cases s with
    | nil => rfl
    | cons c s => simp only [List.map_cons, Pattern.leaves, hp c, hk]
  | many cls => exact leavesMany_of_blind hp hk s
  | many1 cls =>
    cases s with
    | nil => rfl
    | cons c s => simp only [List.map_cons, Pattern.leaves, hp c, leavesMany_of_blind hp hk]
  | opt p ih => rw [Pattern.leaves, Pattern.leaves, ih hp hk, hk]
  | seq p q ihp ihq => exact ihp hp.1 (ihq hp.2 hk) s
  | notAhead cls =>
    cases s with
    | nil => exact hk []
    | cons c s =>
      have hcs := hk (c :: s)
      rw [List.map_cons, List.map_cons] at hcs ⊢
      simp only [Pattern.leaves, hp c, hcs]
  | lineEnd =>
    have hs : (s.map φ == [] || s.map φ == ['\n']) = (s.map ψ == [] || s.map ψ == ['\n']) := by
      rcases s with _ | ⟨c, _ | ⟨d, s⟩⟩
      · rfl
      · simpa using hp c
      · simp
    rw [Pattern.leaves, Pattern.leaves, hs, hk]

theorem Pattern.starts_of_blind {p : Pattern} (hp : p.Blind f φ ψ) (s : List γ) :
    p.starts f (s.map φ) = p.starts f (s.map ψ) :=
  leaves_of_blind hp (fun _ => rfl) s

end blind

/-! ## Patterns that disregard case -/

theorem CharClass.holds_fold (cls : CharClass) (c : Char) :
    cls.holds .caseless (fold c) = cls.holds .caseless c := by
  have hm : mates (fold c) = mates c := by rw [mates, fold_fold, mates]
  cases cls with
  | dot => simp [CharClass.holds, bne]
  | blank => exact isBlank_fold c
  | only d => simp [CharClass.holds, Folding.fold, fold_fold]
  | among items | except items => simp [CharClass.holds, ClassItem.anyCovers, Folding.mates, hm]

/-- Where case is disregarded, a text may be folded. -/
theorem Pattern.blind_fold : ∀ p : Pattern, p.Blind .caseless fold id
  | .text _ => fun _ _ c => by simp only [Folding.fold, fold_fold, id]
  | .anyOf _ => fun _ _ _ _ c => by simp only [Folding.fold, fold_fold, id]
  | .one cls | .many cls | .many1 cls | .notAhead cls => cls.holds_fold
  | .opt p => p.blind_fold
  | .seq p q => ⟨p.blind_fold, q.blind_fold⟩
  | .lineEnd => fold_beq_newline

/-- **To disregard case is to read the folded text.** -/
theorem Pattern.starts_map_fold (p : Pattern) (s : List Char) :
    p.starts .caseless (s.map fold) = p.starts .caseless s := by
  rw [starts_of_blind p.blind_fold, List.map_id]

end DiagramLint
