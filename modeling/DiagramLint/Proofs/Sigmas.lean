/-
  The two small sigmas.

  At the end of a word the capital sigma has a small form of its own.  Where a word ends depends on
  the text around the place; `lowerCase` does not look around, and writes the common form everywhere.

  * `lowerCaseBy ends s`: the small form of a text, where `ends` tells from what stands before and
    behind a capital sigma whether it ends a word;
  * `commonSigma`: the common form in the place of the final one.

  `map_commonSigma_lowerCaseBy`: this form is all that the rule decides.  `declared_lowerCaseBy`:
  detection sees no difference, whatever the rule is.
-/
import DiagramLint.Proofs.Language

namespace DiagramLint

namespace Text

/-! ## Small forms in context -/

/-- The small form of a text that stands behind `before`, which is read backwards. -/
def lowerFrom (ends : List Char → List Char → Bool) (before : List Char) : List Char → List Char
  | [] => []
  | c :: s =>
    (if c = '\u03A3' ∧ ends before s = true then ['\u03C2'] else lower c) ++
      lowerFrom ends (c :: before) s

/-- The small form of a text, with final sigmas where `ends` says so.  The rule sees the text before
    the place, read backwards, and the text behind it. -/
def lowerCaseBy (ends : List Char → List Char → Bool) (s : List Char) : List Char :=
  lowerFrom ends [] s

/-- The common small sigma for the final one. -/
def commonSigma (c : Char) : Char := if c = '\u03C2' then '\u03C3' else c

variable {ends : List Char → List Char → Bool} {before s w : List Char}

theorem map_commonSigma_lowerFrom :
    (lowerFrom ends before s).map commonSigma = (lowerCase s).map commonSigma := by
  induction s generalizing before with
  | nil => rfl
  | cons c s ih =>
    have hsigma : lower '\u03A3' = ['\u03C3'] := by decide +kernel
    rw [lowerFrom, lowerCase_cons, List.map_append, List.map_append, ih]
    split
    · next hc =>
      rw [hc.1, hsigma]
      rfl
    · rfl

/-- **The rule decides on the form of the small sigmas only.** -/
theorem map_commonSigma_lowerCaseBy (ends : List Char → List Char → Bool) (s : List Char) :
    (lowerCaseBy ends s).map commonSigma = (lowerCase s).map commonSigma :=
  map_commonSigma_lowerFrom

theorem commonSigma_of_ne {c : Char} (h : c ≠ '\u03C2') : commonSigma c = c := if_neg h

theorem commonSigma_eq_self {c : Char} (h : commonSigma c ≠ '\u03C3') : commonSigma c = c := by
  refine commonSigma_of_ne ?_
  rintro rfl
  exact h rfl

/-- What is the same for the two small sigmas does not see which one is written. -/
theorem apply_commonSigma {α : Type} {g : Char → α} (h : g '\u03C3' = g '\u03C2') (c : Char) :
    g (commonSigma c) = g c := by
  by_cases hc : c = '\u03C2'
  · subst hc
    exact h
  · rw [commonSigma_of_ne hc]

/-- Words without small sigmas stand in the same texts. -/
theorem infix_map_commonSigma_iff (hfinal : '\u03C2' ∉ w) (hcommon : '\u03C3' ∉ w) :
    w <:+: s.map commonSigma ↔ w <:+: s := by
  constructor
  · intro h
    obtain ⟨v, hv, hw⟩ := List.infix_map_iff.1 h
    have hvw : v.map id = w :=
      map_eq_of_notMem (fun _ hc => (commonSigma_eq_self hc).symm) hw.symm hcommon
    rwa [← hvw, List.map_id]
  · intro h
    rw [← map_eq_of_notMem (fun _ hc => commonSigma_of_ne hc) (List.map_id w) hfinal]
    exact h.map commonSigma

end Text

open Text

variable {d : Dialect} {l : Line}

/-! ## Detection -/

namespace Script

/-- Case is disregarded, and so is the form of the small sigma. -/
def sigmaFolded : Script := ofMap (fold ∘ commonSigma)
  (fun c => by rw [Function.comp_apply, isBlank_fold, apply_commonSigma (g := isBlank) rfl])
  (fun c => by
    rw [Function.comp_apply, fold_beq_newline, apply_commonSigma (g := (· == '\n')) rfl])

theorem text_sigmaFolded (l : Line) : sigmaFolded.text l = l.map (fold ∘ commonSigma) :=
  List.map_eq_flatMap.symm

end Script

/-- Openings hold no small sigma, so it does not matter which one is written. -/
theorem opening_map_commonSigma_iff :
    Opening d ((l.map commonSigma).map fold) ↔ Opening d (l.map fold) := by
  have htitle : ∀ l : Line, IsTitle (l.map (fold ∘ commonSigma)) ↔ IsTitle (l.map fold) := by
    intro l
    rw [← Script.text_sigmaFolded, ← Script.text_folded, Script.isTitle_text_iff,
      Script.isTitle_text_iff]
  have hfinal : fold '\u03C2' = '\u03C2' := by decide
  have hcommon : fold '\u03C3' = '\u03C3' := by decide
  rw [List.map_map]
  constructor
  · refine Opening.map_of_forall (x := '\u03C3') (by decide) (fun c hc => ?_)
      fun l => (htitle l).1
    have hself : commonSigma c = c := by
      refine commonSigma_eq_self fun h => hc ?_
      rw [Function.comp_apply, h, hcommon]
    rw [Function.comp_apply, hself]
  · refine Opening.map_of_forall (x := '\u03C2') (by decide) (fun c hc => ?_)
      fun l => (htitle l).2
    rw [Function.comp_apply, commonSigma_of_ne]
    rintro rfl
    exact hc hfinal

/-- **Detection does not tell the small sigmas apart**: whichever a line in lower case is written
    with, it is the declaration of the same dialect. -/
theorem declared_lowerCaseBy (ends : List Char → List Char → Bool) (l : Line) :
    declared Grammar.tables (lowerCaseBy ends l) = declared Grammar.tables (lowerCase l) := by
  refine declared_congr fun t ht => ?_
  rw [Bool.eq_iff_iff, accepts_declaration_iff ht, accepts_declaration_iff ht,
    ← opening_map_commonSigma_iff, map_commonSigma_lowerCaseBy, opening_map_commonSigma_iff]

end DiagramLint
