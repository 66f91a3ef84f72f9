/-
  The kind of a message, by the phrases that it holds.

  The phrases are ordered, and the first of them that a message holds tells its kind, wherever it
  stands.  So what counts is which phrases a message holds, and none of them crosses a newline.

  * `ErrorKind.rank`: the place of a kind among those that have a phrase; the general kind comes
    behind all of them;
  * `ErrorKind.prior`: the one of two kinds that comes first;
  * `phraseIndex s`: the place of the first phrase that the text holds.

  `rank_classifyLower`: the rank of a message is the place of its first phrase.
  `classifyLower_append_cons`: of two lines, each has its kind, and the prior one is that of both.
-/
import DiagramLint.Classify
import DiagramLint.Proofs.LetterCase
import DiagramLint.Proofs.Sigmas

namespace DiagramLint

open Text

variable {s t w : List Char}

/-! ## Words across a mark -/

namespace Text

/-- A word without the mark stands on one side of it. -/
theorem infix_append_cons_iff {c : Char} (hc : c ∉ w) :
    w <:+: s ++ c :: t ↔ w <:+: s ∨ w <:+: t := by
  constructor
  · intro h
    rcases List.infix_append_iff_ne_nil.1 h with h | h | ⟨u, v, -, hv, rfl, -, hp⟩
    · exact .inl h
    · rcases List.infix_cons_iff.1 h with h | h
      · cases w with
        | nil => exact .inl List.nil_infix
        | cons d w =>
          rw [(List.cons_prefix_cons.1 h).1] at hc
          exact absurd List.mem_cons_self hc
      · exact .inr h
    -- a word that crosses the mark would hold it
    · obtain ⟨d, v, rfl⟩ := List.exists_cons_of_ne_nil hv
      rw [(List.cons_prefix_cons.1 hp).1] at hc
      exact absurd (List.mem_append_right _ List.mem_cons_self) hc
  · rintro (h | h)
    · exact List.infix_append_of_infix_left h
    · exact List.infix_append_of_infix_right (List.infix_cons h)

end Text

/-! ## The order of the kinds -/

namespace ErrorKind

/-- The place of a kind in the order of the phrases. -/
def rank (k : ErrorKind) : Nat := (keyPhrases.map (·.2)).idxOf k

/-- The kind of the two that comes first. -/
def prior (k l : ErrorKind) : ErrorKind := if k.rank ≤ l.rank then k else l

end ErrorKind

/-- The place of the first phrase that the text holds. -/
def phraseIndex (s : List Char) : Nat := keyPhrases.findIdx fun p => occursIn p.1.toList s

/-- The kind of the phrase at a place. -/
def kindAt (i : Nat) : ErrorKind := ((keyPhrases.map (·.2))[i]?).getD .general

theorem rank_kindAt {i : Nat} (hi : i ≤ keyPhrases.length) : (kindAt i).rank = i := by
  have table : ∀ i ≤ keyPhrases.length, (kindAt i).rank = i := by decide
  exact table i hi

theorem phraseIndex_le_length (s : List Char) : phraseIndex s ≤ keyPhrases.length :=
  List.findIdx_le_length

theorem classifyLower_eq_kindAt (s : List Char) : classifyLower s = kindAt (phraseIndex s) := by
  rw [classifyLower, kindAt, phraseIndex, List.find?_eq_getElem?_findIdx, List.getElem?_map]
  split
  · next h => rw [h]; rfl
  · next h => rw [h]; rfl

/-- **The rank of a text is the place of its first phrase.** -/
theorem rank_classifyLower (s : List Char) : (classifyLower s).rank = phraseIndex s := by
  rw [classifyLower_eq_kindAt, rank_kindAt (phraseIndex_le_length s)]

/-! ## The phrases that a text holds -/

/-- A text that holds more phrases has no later first phrase. -/
theorem phraseIndex_le (h : ∀ p ∈ keyPhrases, p.1.toList <:+: s → p.1.toList <:+: t) :
    phraseIndex t ≤ phraseIndex s := by
  refine List.findIdx_le_findIdx fun p hp hs => ?_
  exact occursIn_iff.2 (h p hp (occursIn_iff.1 hs))

theorem classifyLower_congr (h : ∀ p ∈ keyPhrases, p.1.toList <:+: s ↔ p.1.toList <:+: t) :
    classifyLower s = classifyLower t := by
  have hi : phraseIndex s = phraseIndex t :=
    Nat.le_antisymm (phraseIndex_le fun p hp => (h p hp).2) (phraseIndex_le fun p hp => (h p hp).1)
  rw [classifyLower_eq_kindAt, classifyLower_eq_kindAt, hi]

theorem findIdx_eq_min {α : Type} {p q r : α → Bool} {xs : List α}
    (h : ∀ x ∈ xs, r x = (p x || q x)) : xs.findIdx r = min (xs.findIdx p) (xs.findIdx q) := by
  induction xs with
  | nil => rfl
  | cons x xs ih =>
    obtain ⟨hx, h⟩ := List.forall_mem_cons.1 h
    rw [List.findIdx_cons, List.findIdx_cons, List.findIdx_cons, hx, ih h]
    cases p x <;> cases q x <;> simp

/-- The first phrase of two lines is the first one of either. -/
theorem phraseIndex_append_cons (s t : List Char) :
    phraseIndex (s ++ '\n' :: t) = min (phraseIndex s) (phraseIndex t) := by
  have hmark : ∀ p ∈ keyPhrases, '\n' ∉ p.1.toList := by decide
  refine findIdx_eq_min fun p hp => ?_
  rw [Bool.eq_iff_iff, Bool.or_eq_true, occursIn_iff, occursIn_iff, occursIn_iff,
    infix_append_cons_iff (hmark p hp)]

/-- **Of two lines, the prior kind is the kind of both.** -/
theorem classifyLower_append_cons (s t : List Char) :
    classifyLower (s ++ '\n' :: t) = (classifyLower s).prior (classifyLower t) := by
  rw [ErrorKind.prior, rank_classifyLower, rank_classifyLower, classifyLower_eq_kindAt,
    phraseIndex_append_cons, min_def, classifyLower_eq_kindAt s, classifyLower_eq_kindAt t]
  split <;> rfl

/-- No phrase holds a small sigma, so it does not matter which one is written. -/
theorem classifyLower_lowerCaseBy (ends : List Char → List Char → Bool) (s : List Char) :
    classifyLower (lowerCaseBy ends s) = classifyLower (lowerCase s) := by
  have hsigma : ∀ p ∈ keyPhrases, '\u03C2' ∉ p.1.toList ∧ '\u03C3' ∉ p.1.toList := by decide
  refine classifyLower_congr fun p hp => ?_
  obtain ⟨hf, hc⟩ := hsigma p hp
  rw [← infix_map_commonSigma_iff hf hc, map_commonSigma_lowerCaseBy,
    infix_map_commonSigma_iff hf hc]

theorem classifyLower_append_cons_comm (s t : List Char) :
    classifyLower (s ++ '\n' :: t) = classifyLower (t ++ '\n' :: s) := by
  rw [classifyLower_eq_kindAt, classifyLower_eq_kindAt, phraseIndex_append_cons,
    phraseIndex_append_cons, min_comm]

/-! ## Messages -/

theorem rank_classify_append_le (a m b : String) :
    (classify (a ++ m ++ b)).rank ≤ (classify m).rank := by
  rw [classify, classify, rank_classifyLower, rank_classifyLower, String.toList_append,
    String.toList_append, lowerCase_append, lowerCase_append]
  exact phraseIndex_le fun p _ h => h.trans (List.infix_append _ _ _)

theorem lowerCase_append_newline (a b : String) :
    lowerCase (a ++ "\n" ++ b).toList = lowerCase a.toList ++ '\n' :: lowerCase b.toList := by
  have hnewline : lower '\n' = ['\n'] := by decide +kernel
  have htext : (a ++ "\n" ++ b).toList = a.toList ++ '\n' :: b.toList := by simp
  rw [htext, lowerCase_append, lowerCase_cons, hnewline, List.singleton_append]

theorem classify_append_newline (a b : String) :
    classify (a ++ "\n" ++ b) = (classify a).prior (classify b) := by
  rw [classify, lowerCase_append_newline, classifyLower_append_cons, classify, classify]

theorem classify_append_newline_comm (a b : String) :
    classify (a ++ "\n" ++ b) = classify (b ++ "\n" ++ a) := by
  rw [classify, classify, lowerCase_append_newline, lowerCase_append_newline,
    classifyLower_append_cons_comm]

theorem classify_of_toLower_eq {m m' : String} (h : m.toLower = m'.toLower) :
    classify m = classify m' := by
  rw [classify, classify, ← lowerCase_small, toLower_eq_toLower_iff.1 h, lowerCase_small]

/-- **A message has the first of the kinds that its parts have.**  A message within another one has
    no prior kind.  Of two messages on lines of their own, the prior kind is that of both, whichever
    comes first.  The case of the letters of ASCII does not matter, nor where lower case writes
    final sigmas. -/
theorem classify_compositional :
    (∀ a m b : String, (classify (a ++ m ++ b)).rank ≤ (classify m).rank) ∧
    (∀ a b : String, classify (a ++ "\n" ++ b) = (classify a).prior (classify b) ∧
      classify (b ++ "\n" ++ a) = (classify a).prior (classify b)) ∧
    (∀ m m' : String, m.toLower = m'.toLower → classify m = classify m') ∧
    ∀ (ends : List Char → List Char → Bool) (m : String),
      classifyLower (lowerCaseBy ends m.toList) = classify m := by
  refine ⟨rank_classify_append_le, fun a b => ?_, fun m m' => classify_of_toLower_eq, ?_⟩
  · refine ⟨classify_append_newline a b, ?_⟩
    rw [← classify_append_newline, classify_append_newline_comm]
  · intro ends m
    exact classifyLower_lowerCaseBy ends m.toList

/-- An unknown word is prior to what does not parse, in other letters and on a later line. -/
theorem classify_compositional_unknown :
    let m := "Could not PARSE \u212Aeyword"
    (m.toLower = "could NOT parse \u212AEYWORD".toLower ∧
      classify m = classify "could NOT parse \u212AEYWORD") ∧
    (classify (m ++ "\n" ++ "\u03A3: Un\u212AnOwn") = .unknownCommand ∧
      classify ("\u03A3: Un\u212AnOwn" ++ "\n" ++ m) = .unknownCommand) ∧
    (classify ("Unknown: " ++ m ++ ", no Diagram Type")).rank ≤ (classify m).rank := by
  intro m
  obtain ⟨hpart, hlines, hcase, -⟩ := classify_compositional
  have hprior : (classify m).prior (classify "\u03A3: Un\u212AnOwn") = .unknownCommand := by
    decide +kernel
  have hm : m.toLower = "could NOT parse \u212AEYWORD".toLower :=
    toLower_eq_toLower_iff.2 (by decide +kernel)
  obtain ⟨hab, hba⟩ := hlines m "\u03A3: Un\u212AnOwn"
  exact ⟨⟨hm, hcase _ _ hm⟩, ⟨hab.trans hprior, hba.trans hprior⟩, hpart _ _ _⟩

end DiagramLint
