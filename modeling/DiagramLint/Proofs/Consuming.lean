/-
  What a pattern takes, part by part.

  Each way to build a pattern has its `iff`: what is taken is a word, a run of characters, what one
  of two patterns takes, or what one takes after the other.  A rule is read off its pattern by them.
-/
import DiagramLint.Pattern.Matcher

namespace DiagramLint

open Text

variable {f : Folding} {p q : Pattern} {cls : CharClass} {s r : List Char}

theorem sameWord_iff {w v : List Char} : SameWord f w v ↔ v.map f.fold = w.map f.fold := by
  induction w generalizing v with
  | nil => cases v <;> simp [SameWord]
  | cons c w ih =>
    cases v with
    | nil => simp [SameWord]
    | cons d v =>
      rw [SameWord, ih, List.map_cons, List.map_cons, List.cons.injEq, @eq_comm _ (f.fold c)]

theorem consumes_word_iff {w : String} :
    Consumes f (.text w) s r ↔ ∃ v, v.map f.fold = w.toList.map f.fold ∧ s = v ++ r := by
  rw [consumes_text_iff, dropWord_eq_some_iff]
  simp only [sameWord_iff]

theorem consumes_anyOf_iff {ws : List String} :
    Consumes f (.anyOf ws) s r ↔ ∃ w ∈ ws, Consumes f (.text w) s r := by
  constructor
  · intro h
    cases h with
    | anyOf hw h => exact ⟨_, hw, h⟩
  · rintro ⟨w, hw, h⟩
    exact .anyOf hw h

theorem consumes_many_iff :
    Consumes f (.many cls) s r ↔ ∃ v, (∀ c ∈ v, cls.holds f c = true) ∧ s = v ++ r := by
  constructor
  · intro h
    induction s with
    | nil =>
      cases h
      exact ⟨[], by simp, rfl⟩
    | cons c s ih =>
      cases h with
      | manyStop => exact ⟨[], by simp, rfl⟩
      | manyMore hc h =>
        obtain ⟨v, hv, rfl⟩ := ih h
        exact ⟨c :: v, List.forall_mem_cons.2 ⟨hc, hv⟩, rfl⟩
  · rintro ⟨v, hv, rfl⟩
    induction v with
    | nil => exact .manyStop
    | cons c v ih =>
      obtain ⟨hc, hv⟩ := List.forall_mem_cons.1 hv
      exact .manyMore hc (ih hv)

theorem consumes_many1_iff :
    Consumes f (.many1 cls) s r ↔
      ∃ v, v ≠ [] ∧ (∀ c ∈ v, cls.holds f c = true) ∧ s = v ++ r := by
  constructor
  · intro h
    cases h with
    | many1 hc h =>
      obtain ⟨v, hv, rfl⟩ := consumes_many_iff.1 h
      exact ⟨_ :: v, List.cons_ne_nil _ _, List.forall_mem_cons.2 ⟨hc, hv⟩, rfl⟩
  · rintro ⟨v, hne, hv, rfl⟩
    obtain ⟨c, v, rfl⟩ := List.exists_cons_of_ne_nil hne
    obtain ⟨hc, hv⟩ := List.forall_mem_cons.1 hv
    exact .many1 hc (consumes_many_iff.2 ⟨v, hv, rfl⟩)

theorem consumes_opt_iff : Consumes f (.opt p) s r ↔ s = r ∨ Consumes f p s r := by
  constructor
  · intro h
    cases h with
    | optSkip => exact .inl rfl
    | optTake h => exact .inr h
  · rintro (rfl | h)
    · exact .optSkip
    · exact .optTake h

theorem consumes_append_iff :
    Consumes f (p ++ q) s r ↔ ∃ t, Consumes f p s t ∧ Consumes f q t r := by
  constructor
  · intro h
    cases h with
    | seq hp hq => exact ⟨_, hp, hq⟩
  · rintro ⟨t, hp, hq⟩
    exact .seq hp hq

theorem consumes_lineEnd_iff : Consumes f .lineEnd s r ↔ AtLineEnd s ∧ r = s := by
  constructor
  · intro h
    cases h with
    | lineEnd h => exact ⟨h, rfl⟩
  · rintro ⟨h, rfl⟩
    exact .lineEnd h

/-! ## What has no case -/

/-- A word without letters is taken as it stands. -/
theorem consumes_single_iff {w : String} (hw : w.toList.all isSingle = true) :
    Consumes .caseless (.text w) s r ↔ s = w.toList ++ r := by
  have hfold : ∀ v : List Char,
      v.map Folding.caseless.fold = w.toList.map Folding.caseless.fold ↔ v = w.toList :=
    fun _ => map_fold_eq_map_fold_iff hw
  simp only [consumes_word_iff, hfold, exists_eq_left]

theorem holds_only_iff {c d : Char} (hd : isSingle d = true) :
    (CharClass.only d).holds .caseless c = true ↔ c = d := by
  rw [CharClass.holds, beq_iff_eq]
  exact fold_eq_fold_iff hd

theorem holds_except_iff {c d : Char} (hd : isSingle d = true) :
    (CharClass.except [.char d]).holds .caseless c = true ↔ c ≠ d := by
  have hmem : d ∈ Folding.caseless.mates c ↔ c = d := by
    rw [Folding.mem_mates_iff, eq_comm]
    exact fold_eq_fold_iff hd
  have hany : ClassItem.anyCovers .caseless [.char d] c = true ↔ c = d := by
    simp only [ClassItem.anyCovers, List.any_eq_true, List.mem_singleton, exists_eq_left,
      ClassItem.covers, beq_iff_eq, exists_eq_right, hmem]
  rw [CharClass.holds, Bool.not_eq_true', ← Bool.not_eq_true]
  exact not_congr hany

theorem consumes_many_only_iff {d : Char} (hd : isSingle d = true) :
    Consumes .caseless (.many (.only d)) s r ↔ ∃ n, s = List.replicate n d ++ r := by
  simp only [consumes_many_iff, holds_only_iff hd]
  constructor
  · rintro ⟨v, hv, rfl⟩
    exact ⟨v.length, by rw [← List.eq_replicate_iff.2 ⟨rfl, hv⟩]⟩
  · rintro ⟨n, rfl⟩
    exact ⟨_, fun _ => List.eq_of_mem_replicate, rfl⟩

end DiagramLint
