/-
  Words in a text, and its two ends.

  * `occursIn w s`: the word `w` stands somewhere in `s`;
  * `stripEnd p s`: the text without the characters at its end that `p` holds of;
  * `strip p s`: the same at both ends.

  `occursIn_iff`: a word that occurs in a text is an infix of it.  `strip_strip`: stripping a second
  time changes nothing.  `strip_eq_nil_iff`: nothing is left of a text exactly when `p` holds of all
  its characters.
-/
namespace DiagramLint.Text

/-! ## Words -/

/-- The word `w` stands somewhere in the text. -/
def occursIn (w : List Char) : List Char → Bool
  | [] => w.isEmpty
  | c :: s => w.isPrefixOf (c :: s) || occursIn w s

theorem occursIn_iff {w s : List Char} : occursIn w s = true ↔ w <:+: s := by
  induction s with
  | nil => simp [occursIn]
  | cons c s ih => simp [occursIn, ih, List.infix_cons_iff]

/-! ## Ends -/

variable {α : Type} (p : α → Bool)

/-- The text without the characters at its end that `p` holds of. -/
def stripEnd (s : List α) : List α := (s.reverse.dropWhile p).reverse

/-- The text without the characters at its two ends that `p` holds of. -/
def strip (s : List α) : List α := stripEnd p (s.dropWhile p)

theorem stripEnd_nil : stripEnd p [] = [] := rfl

theorem strip_nil : strip p [] = [] := rfl

/-- What is stripped from the end begins behind the last character that stays. -/
theorem stripEnd_cons (c : α) (s : List α) :
    stripEnd p (c :: s) = if stripEnd p s = [] ∧ p c = true then [] else c :: stripEnd p s := by
  unfold stripEnd
  simp only [List.reverse_cons, List.dropWhile_append, List.isEmpty_iff, List.reverse_eq_nil_iff]
  by_cases h : s.reverse.dropWhile p = []
  · by_cases hc : p c = true <;> simp [h, hc]
  · simp [h]

theorem stripEnd_eq_nil_iff {s : List α} : stripEnd p s = [] ↔ ∀ c ∈ s, p c = true := by
  induction s with
  | nil => simp [stripEnd_nil]
  | cons c s ih =>
    rw [stripEnd_cons, List.forall_mem_cons, ← ih]
    by_cases h : stripEnd p s = [] <;> simp [h]

theorem stripEnd_stripEnd (s : List α) : stripEnd p (stripEnd p s) = stripEnd p s := by
  induction s with
  | nil => rfl
  | cons c s ih =>
    rw [stripEnd_cons]
    split
    · rfl
    · next h => rw [stripEnd_cons, ih, if_neg h]

theorem stripEnd_append {b : List α} (h : ∀ c ∈ b, p c = true) (s : List α) :
    stripEnd p (s ++ b) = stripEnd p s := by
  induction s with
  | nil => exact (stripEnd_eq_nil_iff p).2 h
  | cons c s ih => rw [List.cons_append, stripEnd_cons, stripEnd_cons, ih]

/-- Nothing is stripped from an end that stays. -/
theorem stripEnd_append_of_ne_nil {t : List α} (h : stripEnd p t ≠ []) (s : List α) :
    stripEnd p (s ++ t) = s ++ stripEnd p t := by
  induction s with
  | nil => rfl
  | cons c s ih => simp [stripEnd_cons, ih, h]

theorem stripEnd_eq_self {s : List α} (h : ∀ c ∈ s.getLast?, p c = false) :
    stripEnd p s = s := by
  induction s with
  | nil => rfl
  | cons c s ih =>
    cases s with
    | nil =>
      have hc : p c = false := h c rfl
      simp [stripEnd_cons, stripEnd_nil, hc]
    | cons d s =>
      have ih := ih h
      rw [stripEnd_cons, ih, if_neg (by simp)]

/-- What is stripped from the end consists of characters that `p` holds of. -/
theorem exists_eq_stripEnd_append (s : List α) :
    ∃ b, (∀ c ∈ b, p c = true) ∧ s = stripEnd p s ++ b := by
  refine ⟨(s.reverse.takeWhile p).reverse, fun c hc => ?_, ?_⟩
  · exact List.all_eq_true.1 List.all_takeWhile c (List.mem_reverse.1 hc)
  · rw [stripEnd, ← List.reverse_append, List.takeWhile_append_dropWhile, List.reverse_reverse]

/-- What is left ends in a character that stays. -/
theorem eq_false_of_mem_getLast?_strip {c : α} {s : List α}
    (h : c ∈ (strip p s).getLast?) : p c = false := by
  rw [strip, stripEnd, List.getLast?_reverse] at h
  have hhead := List.head?_dropWhile_not p (s.dropWhile p).reverse
  rw [Option.mem_def.1 h] at hhead
  simpa using hhead

theorem strip_cons_of_pos {c : α} (s : List α) (h : p c = true) :
    strip p (c :: s) = strip p s := by
  simp [strip, h]

theorem strip_cons_of_neg {c : α} (s : List α) (h : p c = false) :
    strip p (c :: s) = c :: stripEnd p s := by
  simp [strip, h, stripEnd_cons]

/-- What is stripped consists of characters that `p` holds of. -/
theorem exists_eq_append_strip_append (s : List α) :
    ∃ a b, (∀ c ∈ a, p c = true) ∧ (∀ c ∈ b, p c = true) ∧ s = a ++ (strip p s ++ b) := by
  obtain ⟨b, hb, he⟩ := exists_eq_stripEnd_append p (s.dropWhile p)
  refine ⟨s.takeWhile p, b, List.all_eq_true.1 List.all_takeWhile, hb, ?_⟩
  rw [strip, ← he, List.takeWhile_append_dropWhile]

/-- What is left begins with a character that stays. -/
theorem eq_false_of_mem_head?_strip {c : α} {s : List α} (h : c ∈ (strip p s).head?) :
    p c = false := by
  induction s with
  | nil => cases h
  | cons d s ih =>
    cases hd : p d with
    | true =>
      rw [strip_cons_of_pos p s hd] at h
      exact ih h
    | false =>
      rw [strip_cons_of_neg p s hd] at h
      cases h
      exact hd

theorem strip_eq_stripEnd {s : List α} (h : ∀ c ∈ s.head?, p c = false) :
    strip p s = stripEnd p s := by
  cases s with
  | nil => rfl
  | cons c s => simp [strip, h c rfl]

theorem strip_eq_nil_iff {s : List α} : strip p s = [] ↔ ∀ c ∈ s, p c = true := by
  induction s with
  | nil => simp [strip_nil]
  | cons c s ih =>
    cases h : p c with
    | true => simp [strip_cons_of_pos p s h, ih, h]
    | false => simp [strip_cons_of_neg p s h, h]

/-- Stripping brings no characters. -/
theorem mem_of_mem_strip {c : α} {s : List α} (h : c ∈ strip p s) : c ∈ s := by
  have hr := (List.dropWhile_sublist p).subset (List.mem_reverse.1 h)
  exact (List.dropWhile_sublist p).subset (List.mem_reverse.1 hr)

/-- What is stripped may stand at either end. -/
theorem strip_append_append {a b : List α} (ha : ∀ c ∈ a, p c = true) (hb : ∀ c ∈ b, p c = true)
    (s : List α) : strip p (a ++ s ++ b) = strip p s := by
  induction a with
  | nil =>
    induction s with
    | nil => exact (strip_eq_nil_iff p).2 hb
    | cons c s ih =>
      cases h : p c with
      | true => simpa [strip_cons_of_pos p _ h] using ih
      | false =>
        rw [List.nil_append, List.cons_append, strip_cons_of_neg p _ h, strip_cons_of_neg p _ h,
          stripEnd_append p hb]
  | cons c a ih =>
    obtain ⟨hc, ha⟩ := List.forall_mem_cons.1 ha
    rw [List.cons_append, List.cons_append, strip_cons_of_pos p _ hc, ih ha]

theorem strip_strip (s : List α) : strip p (strip p s) = strip p s := by
  induction s with
  | nil => rfl
  | cons c s ih =>
    cases h : p c with
    | true => rw [strip_cons_of_pos p s h, ih]
    | false => rw [strip_cons_of_neg p s h, strip_cons_of_neg p _ h, stripEnd_stripEnd]

end DiagramLint.Text
