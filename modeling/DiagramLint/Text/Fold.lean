/-
  Comparing characters without regard to case.

  Beside the pairs of ASCII letters, three letters have further mates: `i` has the dotted capital
  U+0130 and the dotless small U+0131, `s` the long s U+017F, and `k` the Kelvin sign U+212A.

  * `fold`: the small ASCII letter that stands for a character and its mates;
  * `mates`: all characters with the same `fold`, so `mem_mates_iff` says;
  * `Folding`: whether a comparison regards case, with `Folding.mates`.
-/
namespace DiagramLint.Text

/-- The character that stands for all those that differ from `c` in case only. -/
def fold (c : Char) : Char :=
  if c = '\u0130' ∨ c = '\u0131' then 'i'
  else if c = '\u017F' then 's'
  else if c = '\u212A' then 'k'
  else c.toLower

/-- The characters that the folded character `f` stands for. -/
def spellings (f : Char) : List Char :=
  if f = 'i' then ['i', 'I', '\u0130', '\u0131']
  else if f = 's' then ['s', 'S', '\u017F']
  else if f = 'k' then ['k', 'K', '\u212A']
  else [f, f.toUpper]

/-- The characters that differ from `c` in case only, `c` among them. -/
def mates (c : Char) : List Char := spellings (fold c)

/-! ## Folding and mates agree -/

theorem toLower_of_ge {c : Char} (h : 128 ≤ c.toNat) : c.toLower = c := by
  have h' : ¬ (c.val ≥ 'A'.val ∧ c.val ≤ 'Z'.val) := fun ⟨_, h₂⟩ =>
    absurd (show c.toNat ≤ 90 from h₂) (by omega)
  exact dif_neg h'

theorem toUpper_of_ge {c : Char} (h : 128 ≤ c.toNat) : c.toUpper = c := by
  have h' : ¬ ('a'.val ≤ c.val ∧ c.val ≤ 'z'.val) := fun ⟨_, h₂⟩ =>
    absurd (show c.toNat ≤ 122 from h₂) (by omega)
  exact dif_neg h'

/-- What holds of the 128 ASCII characters, one by one, and of all others holds of every
    character. -/
theorem ascii_cases {P : Char → Prop} (small : ∀ n < 128, P (Char.ofNat n))
    (large : ∀ c : Char, 128 ≤ c.toNat → P c) (c : Char) : P c := by
  by_cases h : c.toNat < 128
  · simpa using small c.toNat h
  · exact large c (by omega)

theorem fold_fold (c : Char) : fold (fold c) = fold c := by
  refine ascii_cases (P := fun c => fold (fold c) = fold c) (by decide) (fun c hc => ?_) c
  by_cases h₁ : c = '\u0130' ∨ c = '\u0131'
  · rcases h₁ with rfl | rfl <;> decide
  by_cases h₂ : c = '\u017F'
  · subst h₂; decide
  by_cases h₃ : c = '\u212A'
  · subst h₃; decide
  have : fold c = c := by simp [fold, h₁, h₂, h₃, toLower_of_ge hc]
  rw [this, this]

theorem mem_spellings_self (f : Char) : f ∈ spellings f := by
  unfold spellings
  split
  · next h => simp [h]
  split
  · next h => simp [h]
  split
  · next h => simp [h]
  · simp

theorem mem_spellings_fold (x : Char) : x ∈ spellings (fold x) := by
  refine ascii_cases (P := fun x => x ∈ spellings (fold x)) (by decide) (fun c hc => ?_) x
  by_cases h₁ : c = '\u0130' ∨ c = '\u0131'
  · rcases h₁ with rfl | rfl <;> decide
  by_cases h₂ : c = '\u017F'
  · subst h₂; decide
  by_cases h₃ : c = '\u212A'
  · subst h₃; decide
  have : fold c = c := by simp [fold, h₁, h₂, h₃, toLower_of_ge hc]
  rw [this]
  exact mem_spellings_self c

theorem fold_toUpper (c : Char) : fold c.toUpper = fold c := by
  refine ascii_cases (P := fun c => fold c.toUpper = fold c) (by decide) (fun c hc => ?_) c
  rw [toUpper_of_ge hc]

theorem fold_of_mem_spellings {f x : Char} (hf : fold f = f) (hx : x ∈ spellings f) :
    fold x = f := by
  unfold spellings at hx
  split at hx
  · next h =>
    subst h
    simp only [List.mem_cons, List.not_mem_nil, or_false] at hx
    rcases hx with rfl | rfl | rfl | rfl <;> decide
  split at hx
  · next h =>
    subst h
    simp only [List.mem_cons, List.not_mem_nil, or_false] at hx
    rcases hx with rfl | rfl | rfl <;> decide
  split at hx
  · next h =>
    subst h
    simp only [List.mem_cons, List.not_mem_nil, or_false] at hx
    rcases hx with rfl | rfl | rfl <;> decide
  · simp only [List.mem_cons, List.not_mem_nil, or_false] at hx
    rcases hx with rfl | rfl
    · exact hf
    · rw [fold_toUpper, hf]

/-- **The mates of a character are the characters with the same fold.** -/
theorem mem_mates_iff {x c : Char} : x ∈ mates c ↔ fold x = fold c :=
  ⟨fold_of_mem_spellings (fold_fold c), fun h => by
    rw [mates, ← h]; exact mem_spellings_fold x⟩

/-- No other character differs from this one in case only. -/
def isSingle (c : Char) : Bool := (mates c).all (· == c)

theorem fold_eq_fold_iff {c d : Char} (h : isSingle d = true) : fold c = fold d ↔ c = d := by
  constructor
  · intro hf
    exact beq_iff_eq.1 (List.all_eq_true.1 h c (mem_mates_iff.2 hf))
  · rintro rfl
    rfl

/-- A word without letters has one spelling. -/
theorem map_fold_eq_map_fold_iff {v w : List Char} (h : w.all isSingle = true) :
    v.map fold = w.map fold ↔ v = w := by
  induction w generalizing v with
  | nil => simp
  | cons d w ih =>
    obtain ⟨hd, hw⟩ : isSingle d = true ∧ w.all isSingle = true := by simpa using h
    cases v with
    | nil => simp
    | cons c v => rw [List.map_cons, List.map_cons, List.cons.injEq, List.cons.injEq,
        fold_eq_fold_iff hd, ih hw]

/-! ## Whether case counts -/

/-- How two characters are compared. -/
inductive Folding where
  /-- Each character is equal to itself only. -/
  | exact
  /-- Case is disregarded. -/
  | caseless
  deriving Repr, DecidableEq

/-- The characters that count as `c`. -/
def Folding.mates : Folding → Char → List Char
  | .exact, c => [c]
  | .caseless, c => Text.mates c

/-- The character that stands for those that count as `c`. -/
def Folding.fold : Folding → Char → Char
  | .exact, c => c
  | .caseless, c => Text.fold c

@[simp] theorem Folding.mem_mates_iff {f : Folding} {x c : Char} :
    x ∈ f.mates c ↔ f.fold x = f.fold c := by
  cases f
  · simp [Folding.mates, Folding.fold]
  · exact Text.mem_mates_iff

end DiagramLint.Text
