/-
  Which lines detection takes for an opening.

  Detection reads a line in lower case, and the grammars read it as it stands.

  * `lowFold c`: the folded form of a character, but the dotted capital U+0130 has none: in lower
    case it is two characters;
  * `Script`: a way to write every character by some characters, blanks by blanks and the newline by
    newlines.  `folded`, `lowered` and `lowFolded` are three;
  * `Script.Agrees`: the first script writes plain characters as the second does;
  * `RuleTable.IsDeclared`: a diagram opens with the declaration of the table.

  `accepts_declaration_lowerCase_iff`: a line in lower case is a declaration if its `lowFold` is an
  opening.  `accepts_of_accepts_lowerCase`: then it is one as it stands, and so
  `exists_isDeclared_of_detect`: a diagram of a dialect opens with the declaration of its grammar.
-/
import DiagramLint.Proofs.Opening

namespace DiagramLint

open Text

/-- The folded form of a character that has a small form of one character. -/
def lowFold (c : Char) : Char := if c = '\u0130' then c else fold c

/-! ## Scripts -/

/-- A way to write characters. -/
structure Script where
  write : Char → List Char
  ne_nil : ∀ c, write c ≠ []
  isBlank_of_mem : ∀ c, ∀ x ∈ write c, isBlank x = isBlank c
  newline_of_mem : ∀ c, ∀ x ∈ write c, (x == '\n') = (c == '\n')

namespace Script

/-- The text in a script. -/
def text (e : Script) (l : Line) : List Char := l.flatMap e.write

/-- The script that replaces each character by another one. -/
def ofMap (φ : Char → Char) (hb : ∀ c, isBlank (φ c) = isBlank c)
    (hn : ∀ c, (φ c == '\n') = (c == '\n')) : Script where
  write c := [φ c]
  ne_nil _ := List.cons_ne_nil _ _
  isBlank_of_mem c x hx := by rw [List.mem_singleton.1 hx, hb]
  newline_of_mem c x hx := by rw [List.mem_singleton.1 hx, hn]

/-- Case is disregarded. -/
def folded : Script := ofMap fold isBlank_fold fold_beq_newline

/-- Case is disregarded, but the dotted capital stays what it is. -/
def lowFolded : Script := ofMap lowFold
  (fun c => by unfold lowFold; split <;> simp) (fun c => by unfold lowFold; split <;> simp)

/-- Small letters are written, and their case disregarded. -/
def lowered : Script where
  write c := (lower c).map fold
  ne_nil c := by
    by_cases hc : c = '\u0130'
    · subst hc
      decide
    · obtain ⟨x, hx, -⟩ := exists_lower hc
      simp [hx]
  isBlank_of_mem c x hx := by
    obtain ⟨y, hy, rfl⟩ := List.mem_map.1 hx
    rw [isBlank_fold, (of_mem_lower hy).1]
  newline_of_mem c x hx := by
    obtain ⟨y, hy, rfl⟩ := List.mem_map.1 hx
    rw [fold_beq_newline, (of_mem_lower hy).2]

theorem text_folded (l : Line) : folded.text l = l.map fold := List.map_eq_flatMap.symm

theorem text_lowFolded (l : Line) : lowFolded.text l = l.map lowFold := List.map_eq_flatMap.symm

theorem text_lowered (l : Line) : lowered.text l = (lowerCase l).map fold := by
  rw [lowerCase, List.map_flatMap]
  rfl

variable {e e' : Script} {l : Line} {a r : List Char}

@[simp] theorem text_nil : e.text [] = [] := rfl

@[simp] theorem text_cons {c : Char} : e.text (c :: l) = e.write c ++ e.text l := rfl

@[simp] theorem text_append {m : Line} : e.text (l ++ m) = e.text l ++ e.text m :=
  List.flatMap_append

theorem text_eq_nil_iff : e.text l = [] ↔ l = [] := by
  cases l with
  | nil => simp
  | cons c l => simp [e.ne_nil c]

theorem allBlank_text_iff : AllBlank (e.text l) ↔ AllBlank l := by
  simp only [AllBlank, text, List.mem_flatMap]
  constructor
  · intro h c hc
    obtain ⟨x, hx⟩ := List.exists_mem_of_ne_nil _ (e.ne_nil c)
    rw [← e.isBlank_of_mem c x hx]
    exact h x ⟨c, hc, hx⟩
  · rintro h x ⟨c, hc, hx⟩
    rw [e.isBlank_of_mem c x hx]
    exact h c hc

/-! ## Titles -/

theorem ne_newline_of_mem {c x : Char} (hx : x ∈ e.write c) : x ≠ '\n' ↔ c ≠ '\n' := by
  rw [← beq_eq_false_iff_ne, ← beq_eq_false_iff_ne, e.newline_of_mem c x hx]

/-- A written line is cut into a part without newlines and blanks only as the line itself is. -/
theorem exists_of_text_eq_append {v b : List Char} (h : e.text l = v ++ b)
    (hv : ∀ c ∈ v, c ≠ '\n') (hb : AllBlank b) :
    ∃ v' b', l = v' ++ b' ∧ (∀ c ∈ v', c ≠ '\n') ∧ AllBlank b' ∧ (v ≠ [] → v' ≠ []) := by
  induction l generalizing v with
  | nil => exact ⟨[], [], rfl, by simp, by simp [AllBlank], by simp_all⟩
  | cons c l ih =>
    cases v with
    | nil =>
      refine ⟨[], c :: l, rfl, by simp, ?_, by simp⟩
      rw [← e.allBlank_text_iff, h]
      exact hb
    | cons x v =>
      rw [text_cons] at h
      have hx : x ∈ e.write c := by
        obtain ⟨y, ys, hy⟩ := List.exists_cons_of_ne_nil (e.ne_nil c)
        rw [hy] at h ⊢
        injection h with h
        rw [h]
        exact List.mem_cons_self
      have hc : c ≠ '\n' := (ne_newline_of_mem hx).1 (hv x List.mem_cons_self)
      -- What is left of the part without newlines is written in the rest of the line, or there is
      -- none left.
      rcases List.append_eq_append_iff.1 h with ⟨a, ha, ha'⟩ | ⟨a, ha, ha'⟩
      · have hva : ∀ y ∈ a, y ≠ '\n' := fun y hy => hv y (ha ▸ List.mem_append_right _ hy)
        obtain ⟨v', b', rfl, hv', hb', -⟩ := ih ha' hva
        exact ⟨c :: v', b', rfl, List.forall_mem_cons.2 ⟨hc, hv'⟩, hb', by simp⟩
      · refine ⟨[c], l, rfl, by simpa using hc, ?_, by simp⟩
        rw [ha', allBlank_append, e.allBlank_text_iff] at hb
        exact hb.2

theorem isTitle_text_iff : IsTitle (e.text l) ↔ IsTitle l := by
  constructor
  · rintro ⟨v, b, hne, hv, hb, h⟩
    obtain ⟨v', b', rfl, hv', hb', hne'⟩ := exists_of_text_eq_append h hv hb
    exact ⟨v', b', hne' hne, hv', hb', rfl⟩
  · rintro ⟨v, b, hne, hv, hb, rfl⟩
    refine ⟨e.text v, e.text b, mt text_eq_nil_iff.1 hne, ?_, allBlank_text_iff.2 hb, text_append⟩
    intro x hx
    obtain ⟨c, hc, hx⟩ := List.mem_flatMap.1 hx
    exact (ne_newline_of_mem hx).2 (hv c hc)

/-! ## Scripts that agree -/

/-- Where the first script writes a plain character, the second writes the same, but that the first
    may write an `i` and put a mark on it. -/
def Agrees (e e' : Script) : Prop :=
  ∀ c y ys, e.write c = y :: ys → isPlain y = true →
    ys = [] ∧ e'.write c = [y] ∨ y = 'i' ∧ ∃ z zs, ys = z :: zs ∧ isPlain z = false

/-- The text is plain, and does not end in an `i`, which might have a mark. -/
def IsClosed (a : List Char) : Prop := (∀ c ∈ a, isPlain c = true) ∧ a.getLast? ≠ some 'i'

theorem IsClosed.append {b : List Char} (ha : IsClosed a) (hb : IsClosed b) :
    IsClosed (a ++ b) := by
  refine ⟨List.forall_mem_append.2 ⟨ha.1, hb.1⟩, ?_⟩
  rw [List.getLast?_append]
  intro h
  rcases Option.or_eq_some_iff.1 h with h | ⟨-, h⟩
  · exact hb.2 h
  · exact ha.2 h

theorem isClosed_of_allBlank {b : List Char} (hb : AllBlank b) : IsClosed b := by
  refine ⟨fun c hc => by simp [isPlain, hb c hc], fun h => ?_⟩
  have hi := hb 'i' (List.mem_of_getLast? h)
  cases hi

theorem isClosed_of_openingWords {d : Dialect} {w : String} (h : (d, w) ∈ openingWords) :
    IsClosed w.toList := by
  have table : ∀ p ∈ openingWords, p.2.toList.all isPlain = true ∧
      p.2.toList.getLast? ≠ some 'i' := by decide
  exact (table _ h).imp_left List.all_eq_true.1

theorem isClosed_of_directions {v : String} (h : v ∈ directions) : IsClosed v.toList := by
  have table : ∀ v ∈ directions, v.toList.all isPlain = true ∧
      v.toList.getLast? ≠ some 'i' := by decide
  exact (table _ h).imp_left List.all_eq_true.1

/-- Scripts that agree write the same closed texts in front. -/
theorem Agrees.exists_of_text_eq_append (he : Agrees e e') (h : e.text l = a ++ r)
    (ha : IsClosed a) : ∃ l₁ l₂, l = l₁ ++ l₂ ∧ e'.text l₁ = a ∧ e.text l₂ = r := by
  induction a generalizing l with
  | nil => exact ⟨[], l, rfl, rfl, h⟩
  | cons y a ih =>
    obtain ⟨hy, hpa⟩ := List.forall_mem_cons.1 ha.1
    cases l with
    | nil => cases h
    | cons c l =>
      obtain ⟨x, xs, hx⟩ := List.exists_cons_of_ne_nil (e.ne_nil c)
      rw [text_cons, hx] at h
      injection h with hxy h
      subst hxy
      rcases he c x xs hx hy with ⟨rfl, hc⟩ | ⟨rfl, z, zs, rfl, hz⟩
      · have hi : a.getLast? ≠ some 'i' := by
          intro hl
          have hi := ha.2
          rw [List.getLast?_cons, hl] at hi
          exact hi rfl
        obtain ⟨l₁, l₂, rfl, h₁, h₂⟩ := ih h ⟨hpa, hi⟩
        exact ⟨c :: l₁, l₂, rfl, by rw [text_cons, hc, h₁]; rfl, h₂⟩
      -- The mark is not plain, so it does not belong to the plain text.
      · cases a with
        | nil => exact absurd rfl ha.2
        | cons w a =>
          injection h with hw
          rw [hw, hpa w List.mem_cons_self] at hz
          cases hz

theorem Agrees.text_eq (he : Agrees e e') (h : e.text l = a) (ha : IsClosed a) :
    e'.text l = a := by
  rw [← List.append_nil a] at h
  obtain ⟨l₁, l₂, rfl, h₁, h₂⟩ := he.exists_of_text_eq_append h ha
  rw [text_append, h₁, text_eq_nil_iff.1 h₂, text_nil, List.append_nil]

/-- **Scripts that agree write the same openings.** -/
theorem Agrees.opening (he : Agrees e e') {d : Dialect} (h : Opening d (e.text l)) :
    Opening d (e'.text l) := by
  generalize hs : e.text l = s at h
  cases h with
  | word hw hb =>
    rw [he.text_eq hs ((isClosed_of_openingWords hw).append (isClosed_of_allBlank hb))]
    exact .word hw hb
  | direction hw hb hv hb' =>
    have hc := (isClosed_of_openingWords hw).append ((isClosed_of_allBlank hb).append
      ((isClosed_of_directions hv).append (isClosed_of_allBlank hb')))
    rw [he.text_eq hs hc]
    exact .direction hw hb hv hb'
  | @title b b' r hb hne hb' ht =>
    have hpie : IsClosed "pie".toList := ⟨List.all_eq_true.1 rfl, by decide⟩
    have htitle : IsClosed "title".toList := ⟨List.all_eq_true.1 rfl, by decide⟩
    have hc := hpie.append ((isClosed_of_allBlank hb).append
      (htitle.append (isClosed_of_allBlank hb')))
    have hs' : e.text l = "pie".toList ++ (b ++ ("title".toList ++ b')) ++ r := by
      simp only [List.append_assoc, hs]
    obtain ⟨l₁, l₂, rfl, h₁, rfl⟩ := he.exists_of_text_eq_append hs' hc
    rw [isTitle_text_iff] at ht
    rw [text_append, h₁]
    simp only [List.append_assoc]
    exact .title hb hne hb' (isTitle_text_iff.2 ht)

/-! ## The scripts of detection -/

theorem write_lowFolded {c : Char} (hc : c ≠ '\u0130') : lowFolded.write c = [fold c] := by
  show [lowFold c] = _
  rw [lowFold, if_neg hc]

theorem exists_write_lowered {c : Char} (hc : c ≠ '\u0130') : ∃ y, lowered.write c = [y] ∧
    (y = fold c ∨ isPlain y = false ∧ isPlain (fold c) = false) := by
  obtain ⟨x, hx, h⟩ := exists_lower hc
  refine ⟨fold x, ?_, h⟩
  show (lower c).map fold = _
  rw [hx, List.map_singleton]

theorem agrees_lowered_lowFolded : lowered.Agrees lowFolded := by
  intro c y ys h hy
  by_cases hc : c = '\u0130'
  · subst hc
    cases h
    exact .inr ⟨rfl, _, _, rfl, by decide⟩
  · obtain ⟨z, hz, hf⟩ := exists_write_lowered hc
    rw [hz] at h
    injection h with h₁ h₂
    subst h₁ h₂
    rw [write_lowFolded hc]
    rcases hf with rfl | ⟨hf, -⟩
    · exact .inl ⟨rfl, rfl⟩
    · rw [hf] at hy
      cases hy

/-- As `lowFold` leaves the dotted capital alone, what it makes of a character is plain only where
    the character has one small form. -/
theorem ne_of_isPlain_lowFold {c y : Char} {ys : List Char} (h : lowFolded.write c = y :: ys)
    (hy : isPlain y = true) : c ≠ '\u0130' ∧ y = fold c ∧ ys = [] := by
  have hc : c ≠ '\u0130' := by
    rintro rfl
    cases h
    cases hy
  rw [write_lowFolded hc] at h
  injection h with h₁ h₂
  exact ⟨hc, h₁.symm, h₂.symm⟩

theorem agrees_lowFolded_lowered : lowFolded.Agrees lowered := by
  intro c y ys h hy
  obtain ⟨hc, rfl, rfl⟩ := ne_of_isPlain_lowFold h hy
  obtain ⟨z, hz, rfl | ⟨-, hf⟩⟩ := exists_write_lowered hc
  · exact .inl ⟨rfl, hz⟩
  · rw [hf] at hy
    cases hy

theorem agrees_lowFolded_folded : lowFolded.Agrees folded := by
  intro c y ys h hy
  obtain ⟨-, rfl, rfl⟩ := ne_of_isPlain_lowFold h hy
  exact .inl ⟨rfl, rfl⟩

end Script

/-! ## Declarations in lower case -/

variable {t : RuleTable} {l : Line}

/-- **A line in lower case is a declaration if its `lowFold` is an opening.** -/
theorem accepts_declaration_lowerCase_iff (ht : t ∈ Grammar.tables) :
    t.declaration.accepts (lowerCase l) = true ↔ Opening t.dialect (l.map lowFold) := by
  rw [accepts_declaration_iff ht, ← Script.text_lowered, ← Script.text_lowFolded]
  exact ⟨Script.agrees_lowered_lowFolded.opening, Script.agrees_lowFolded_lowered.opening⟩

/-- **What detection takes for a declaration is one**, for the grammar that reads the line as it
    stands. -/
theorem accepts_of_accepts_lowerCase (ht : t ∈ Grammar.tables)
    (h : t.declaration.accepts (lowerCase l) = true) : t.declaration.accepts l = true := by
  rw [accepts_declaration_lowerCase_iff ht, ← Script.text_lowFolded] at h
  rw [accepts_declaration_iff ht, ← Script.text_folded]
  exact Script.agrees_lowFolded_folded.opening h

/-! ## Detection -/

/-- The first line that counts is the declaration of the table. -/
def RuleTable.IsDeclared (t : RuleTable) (ls : List Line) : Prop :=
  ∃ l, ls.find? isMeaningful = some l ∧ t.declaration.accepts (trim l) = true

theorem RuleTable.IsDeclared.exists_isMeaningful {ls : List Line} (h : t.IsDeclared ls) :
    ∃ l ∈ ls, isMeaningful l = true := by
  obtain ⟨l, hl, -⟩ := h
  exact ⟨l, List.mem_of_find?_eq_some hl, List.find?_some hl⟩

/-- **A diagram of a dialect opens with the declaration of its grammar.** -/
theorem exists_isDeclared_of_detect {ls : List Line} (h : detect ls ≠ .unknown) :
    ∃ t, Grammar.table? (detect ls) = some t ∧ t.IsDeclared ls := by
  generalize hd : detect ls = d at h
  unfold detect detectAmong at hd
  split at hd
  · next l hl =>
    unfold declared at hd
    split at hd
    · next t ht =>
      have htm := List.mem_of_find?_eq_some ht
      have hta := List.find?_some ht
      exact ⟨t, Grammar.table?_eq_some_iff.2 ⟨htm, hd⟩, l, hl, accepts_of_accepts_lowerCase htm hta⟩
    · exact absurd hd.symm h
  · exact absurd hd.symm h

end DiagramLint
