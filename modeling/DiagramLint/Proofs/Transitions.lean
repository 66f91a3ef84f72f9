/-
  The lines of state diagrams.

  Four shapes overlap, and a line has one of them if the text before its first arrow and the text
  behind it are right.

  * `FirstCut w l a b`: the text `w` occurs in `l`, first between `a` and `b`;
  * `IsWord a`: a word and nothing else;
  * `IsBrackets a`: opening brackets and then closing ones, none of either among them;
  * `IsHead head H`: before an arrow the pattern takes the texts with `H`;
  * `ArrowBehind a l r`: the line `l` is `a`, an arrow and `r`, with blanks before the arrow.

  `arrowBehind_iff`: of what can stand before an arrow there is one reading only.
  `anyAccepts_states_iff`: the four shapes in one.
-/
import DiagramLint.Proofs.LetterCase
import DiagramLint.Proofs.Redundancy
import DiagramLint.Proofs.Words

namespace DiagramLint

open Text

/-! ## The first arrow of a line -/

/-- The text `w` occurs in `l`, and first between `a` and `b`. -/
structure FirstCut (w l a b : List Char) : Prop where
  eq : l = a ++ (w ++ b)
  first : ∀ a' b', l = a' ++ (w ++ b') → a.length ≤ a'.length

variable {w l a b r s : List Char} {c : Char}

theorem FirstCut.unique {a' b' : List Char} (h : FirstCut w l a b) (h' : FirstCut w l a' b') :
    a = a' ∧ b = b' := by
  have hlen : a.length = a'.length :=
    Nat.le_antisymm (h.first a' b' h'.eq) (h'.first a b h.eq)
  obtain ⟨ha, hb⟩ := List.append_inj (h.eq.symm.trans h'.eq) hlen
  exact ⟨ha, List.append_cancel_left hb⟩

/-- A text occurs first where its first character does. -/
theorem firstCut_of_notMem (h : c ∉ a) : FirstCut (c :: w) (a ++ (c :: w ++ b)) a b where
  eq := rfl
  first a' b' he := by
    rcases List.append_eq_append_iff.1 he with ⟨x, rfl, -⟩ | ⟨x, rfl, hx⟩
    · rw [List.length_append]
      exact Nat.le_add_right _ _
    · cases x with
      | nil => simp
      | cons d x =>
        injection hx with hd
        exact absurd (by simp [hd]) h

/-- The line is `a`, an arrow and `r`, with blanks before the arrow. -/
def ArrowBehind (a l r : List Char) : Prop :=
  ∃ b, AllBlank b ∧ l = a ++ (b ++ ("-->".toList ++ r))

/-- **What stands before the first arrow**, but for the blanks at its end, is what any reading of
    the line has before its arrow, if there are no dashes in it. -/
theorem arrowBehind_iff (ha : ∀ c ∈ a, c ≠ '-' ∧ isBlank c = false) : ArrowBehind a l r ↔
    ∃ pre, FirstCut "-->".toList l pre r ∧ stripEnd isBlank pre = a := by
  constructor
  · rintro ⟨b, hb, rfl⟩
    refine ⟨a ++ b, ?_, ?_⟩
    · rw [← List.append_assoc]
      refine firstCut_of_notMem (w := ['-', '>']) fun hd => ?_
      rcases List.mem_append.1 hd with hd | hd
      · exact (ha _ hd).1 rfl
      · exact absurd (hb _ hd) (by decide)
    · rw [stripEnd_append isBlank hb]
      exact stripEnd_eq_self isBlank fun c hc => (ha c (List.mem_of_getLast? hc)).2
  · rintro ⟨pre, hcut, rfl⟩
    obtain ⟨b, hb, he⟩ := exists_eq_stripEnd_append isBlank pre
    refine ⟨b, hb, ?_⟩
    rw [← List.append_assoc, ← he]
    exact hcut.eq

/-! ## What may stand before an arrow -/

/-- A word and nothing else. -/
def IsWord (a : List Char) : Prop := a ≠ [] ∧ ∀ c ∈ a, isWordChar c = true

/-- Opening brackets and then closing ones, none of either among them. -/
def IsBrackets (a : List Char) : Prop := ∃ m n, a = List.replicate m '[' ++ List.replicate n ']'

/-- The pattern takes the texts of a kind, in which there are neither dashes nor blanks. -/
structure IsHead (head : Pattern) (H : List Char → Prop) : Prop where
  consumes : ∀ s r, Consumes .caseless head s r ↔ ∃ a, H a ∧ s = a ++ r
  solid : ∀ a, H a → ∀ c ∈ a, c ≠ '-' ∧ isBlank c = false

theorem isHead_word : IsHead Grammar.word IsWord where
  consumes s r := by
    simp only [Grammar.word, consumes_many1_iff, IsWord, and_assoc]
    rfl
  solid a ha c hc := by
    have hw := ha.2 c hc
    refine ⟨?_, isBlank_eq_false_of_isWordChar hw⟩
    rintro rfl
    exact absurd hw (by decide)

theorem isHead_brackets : IsHead (.many (.only '[') ++ .many (.only ']')) IsBrackets where
  consumes s r := by
    simp only [consumes_append_iff, consumes_many_only_iff (d := '[') (by decide),
      consumes_many_only_iff (d := ']') (by decide)]
    constructor
    · rintro ⟨_, ⟨m, rfl⟩, n, rfl⟩
      exact ⟨_, ⟨m, n, rfl⟩, (List.append_assoc _ _ _).symm⟩
    · rintro ⟨_, ⟨m, n, rfl⟩, rfl⟩
      exact ⟨_, ⟨m, List.append_assoc _ _ _⟩, n, rfl⟩
  solid a ha c hc := by
    obtain ⟨m, n, rfl⟩ := ha
    rcases List.mem_append.1 hc with hc | hc
    · rw [List.eq_of_mem_replicate hc]
      decide
    · rw [List.eq_of_mem_replicate hc]
      decide

theorem isHead_star : IsHead (.text "[*]") (· = "[*]".toList) where
  consumes s r := by rw [consumes_single_iff (by decide), exists_eq_left]
  solid a ha := by
    have hall : "[*]".toList.all (fun c => c != '-' && !isBlank c) = true := by decide
    rw [ha]
    simpa using hall

/-! ## A shape with an arrow -/

/-- A line with an arrow: what stands before it, and what stands behind it and some blanks. -/
def Grammar.arrowLine (head tail : Pattern) : Pattern :=
  blanks ++ (head ++ (blanks ++ (.text "-->" ++ (blanks ++ tail))))

namespace Pattern

variable {head tail tail' : Pattern} {H : List Char → Prop}

/-- **A shape with an arrow**: what may stand before the arrow stands there, and what may follow it
    does. -/
theorem starts_arrowLine_iff (hH : IsHead head H) (ht : trim s = s) :
    (Grammar.arrowLine head tail).starts .caseless s = true ↔
      ∃ a r, H a ∧ ArrowBehind a s r ∧ (Grammar.blanks ++ tail).starts .caseless r = true := by
  have harrow : "-->".toList.all isSingle = true := by decide
  rw [Grammar.arrowLine, starts_blanks_append_of_trim ht]
  simp only [starts_append_iff (p := head), hH.consumes,
    starts_blanks_append_iff (q := .text "-->" ++ _), starts_append_iff (p := .text "-->"),
    consumes_single_iff harrow]
  constructor
  · rintro ⟨_, ⟨a, ha, rfl⟩, b, _, hb, rfl, r, rfl, hr⟩
    exact ⟨a, r, ha, ⟨b, hb, rfl⟩, hr⟩
  · rintro ⟨a, r, ha, ⟨b, hb, rfl⟩, hr⟩
    exact ⟨_, ⟨a, ha, rfl⟩, b, _, hb, rfl, r, rfl, hr⟩

theorem starts_append_mono {p q q' : Pattern} {f : Folding}
    (h : ∀ t, q.starts f t = true → q'.starts f t = true) (hs : (p ++ q).starts f s = true) :
    (p ++ q').starts f s = true := by
  obtain ⟨t, hp, hq⟩ := starts_append_iff.1 hs
  exact starts_append_iff.2 ⟨t, hp, h t hq⟩

theorem starts_arrowLine_mono
    (h : ∀ t, tail.starts .caseless t = true → tail'.starts .caseless t = true)
    (hs : (Grammar.arrowLine head tail).starts .caseless s = true) :
    (Grammar.arrowLine head tail').starts .caseless s = true :=
  starts_append_mono (fun _ => starts_append_mono fun _ => starts_append_mono fun _ =>
    starts_append_mono fun _ => starts_append_mono h) hs

/-- Brackets need not be there. -/
theorem starts_brackets_append {q : Pattern} (h : q.starts .caseless s = true) :
    (.many (.only '[') ++ (.many (.only ']') ++ q)).starts .caseless s = true :=
  starts_append_iff.2 ⟨s, .manyStop, starts_append_iff.2 ⟨s, .manyStop, h⟩⟩

/-- Whatever stands before the rest of a line belongs to the rest, newlines apart. -/
theorem starts_rest_append {f : Folding} (ha : '\n' ∉ a)
    (h : Grammar.rest.starts f s = true) : Grammar.rest.starts f (a ++ s) = true := by
  obtain ⟨v, t, hv, rfl, ht⟩ := starts_many_append_iff.1 h
  refine starts_many_append_iff.2 ⟨a ++ v, t, ?_, (List.append_assoc _ _ _).symm, ht⟩
  refine List.forall_mem_append.2 ⟨fun c hc => ?_, hv⟩
  rw [CharClass.holds, bne_iff_ne]
  rintro rfl
  exact ha hc

end Pattern

/-! ## The four shapes -/

namespace Grammar

/-- Brackets, an arrow and a word. -/
def entryLine : Pattern := arrowLine (.many (.only '[') ++ .many (.only ']')) (word ++ rest)

/-- A word, an arrow, and anything. -/
def transitionLine : Pattern :=
  arrowLine word (.many (.only '[') ++ (.many (.only ']') ++ rest))

/-- A star in brackets, an arrow and a word. -/
def initialLine : Pattern := arrowLine (.text "[*]") (word ++ rest)

/-- A word, an arrow and a star in brackets. -/
def finalLine : Pattern := arrowLine word (.text "[*]" ++ rest)

/-- The shapes of state diagrams, part by part from the front. -/
theorem map_accepts_states : states.shapes.map (·.accepts) =
    [entryLine.starts .caseless, transitionLine.starts .caseless, initialLine.starts .caseless,
      finalLine.starts .caseless] := rfl

/-- The star is among what may follow the arrow of a transition. -/
theorem starts_transitionLine_of_finalLine (h : finalLine.starts .caseless s = true) :
    transitionLine.starts .caseless s = true := by
  refine Pattern.starts_arrowLine_mono (fun t ht => Pattern.starts_brackets_append ?_) h
  obtain ⟨r, hr, ht⟩ := Pattern.starts_append_iff.1 ht
  obtain ⟨_, rfl, rfl⟩ := (isHead_star.consumes _ _).1 hr
  exact Pattern.starts_rest_append (by decide) ht

end Grammar

/-! ## The first arrow decides -/

variable {H : List Char → Prop} {head tail : Pattern}

/-- A shape with an arrow is about the first arrow of the line. -/
theorem starts_arrowLine_iff_firstCut (hH : IsHead head H) (ht : trim l = l) :
    (Grammar.arrowLine head tail).starts .caseless l = true ↔ ∃ pre post,
      FirstCut "-->".toList l pre post ∧ H (stripEnd isBlank pre) ∧
        (Grammar.blanks ++ tail).starts .caseless post = true := by
  rw [Pattern.starts_arrowLine_iff hH ht]
  constructor
  · rintro ⟨a, r, ha, hr, htail⟩
    obtain ⟨pre, hcut, rfl⟩ := (arrowBehind_iff (hH.solid a ha)).1 hr
    exact ⟨pre, r, hcut, ha, htail⟩
  · rintro ⟨pre, post, hcut, ha, htail⟩
    exact ⟨_, post, ha, (arrowBehind_iff (hH.solid _ ha)).2 ⟨pre, hcut, rfl⟩, htail⟩

theorem FirstCut.notMem (h : FirstCut w l a b) (hn : c ∉ l) : c ∉ b := fun hb =>
  hn (by rw [h.eq]; exact List.mem_append_right _ (List.mem_append_right _ hb))

/-- A word behind the arrow. -/
theorem starts_arrowLine_word_iff (hH : IsHead head H) (ht : trim l = l) (hn : '\n' ∉ l) :
    (Grammar.arrowLine head (Grammar.word ++ Grammar.rest)).starts .caseless l = true ↔
      ∃ pre post, FirstCut "-->".toList l pre post ∧ H (stripEnd isBlank pre) ∧
        BeginsWord (post.dropWhile isBlank) := by
  rw [starts_arrowLine_iff_firstCut hH ht]
  refine exists₂_congr fun pre post => and_congr_right fun hcut => and_congr_right fun _ => ?_
  exact Pattern.starts_blanks_word_rest_iff (hcut.notMem hn)

/-- Anything may follow the arrow of a transition. -/
theorem starts_transitionLine_iff (ht : trim l = l) (hn : '\n' ∉ l) :
    Grammar.transitionLine.starts .caseless l = true ↔
      ∃ pre post, FirstCut "-->".toList l pre post ∧ IsWord (stripEnd isBlank pre) := by
  rw [Grammar.transitionLine, starts_arrowLine_iff_firstCut isHead_word ht]
  refine exists₂_congr fun pre post => and_congr_right fun hcut => and_iff_left ?_
  have hrest := Pattern.starts_rest (f := .caseless) (hcut.notMem hn)
  exact Pattern.starts_blanks_append_iff.2 ⟨[], post, by simp [AllBlank], rfl,
    Pattern.starts_brackets_append hrest⟩

theorem anyAccepts_states_iff_starts : AnyAccepts Grammar.states.shapes l ↔
    Grammar.entryLine.starts .caseless l = true ∨ Grammar.transitionLine.starts .caseless l = true ∨
      Grammar.initialLine.starts .caseless l = true := by
  have hmap : AnyAccepts Grammar.states.shapes l ↔
      ∃ g ∈ Grammar.states.shapes.map (·.accepts), g l = true := by simp [AnyAccepts]
  rw [hmap, Grammar.map_accepts_states]
  simp only [List.mem_cons, List.not_mem_nil, or_false, exists_eq_or_imp, exists_eq_left]
  have hfinal := Grammar.starts_transitionLine_of_finalLine (s := l)
  grind

/-- **The four shapes in one**: a word before the first arrow, or brackets or a star before it and a
    word behind it. -/
theorem anyAccepts_states_iff (ht : trim l = l) (hn : '\n' ∉ l) :
    AnyAccepts Grammar.states.shapes l ↔ ∃ pre post, FirstCut "-->".toList l pre post ∧
      (IsWord (stripEnd isBlank pre) ∨
        (IsBrackets (stripEnd isBlank pre) ∨ stripEnd isBlank pre = "[*]".toList) ∧
          BeginsWord (post.dropWhile isBlank)) := by
  rw [anyAccepts_states_iff_starts, Grammar.entryLine, Grammar.initialLine,
    starts_arrowLine_word_iff isHead_brackets ht hn, starts_arrowLine_word_iff isHead_star ht hn,
    starts_transitionLine_iff ht hn]
  constructor
  · rintro (⟨pre, post, hcut, ha, hw⟩ | ⟨pre, post, hcut, ha⟩ | ⟨pre, post, hcut, ha, hw⟩)
    · exact ⟨pre, post, hcut, .inr ⟨.inl ha, hw⟩⟩
    · exact ⟨pre, post, hcut, .inl ha⟩
    · exact ⟨pre, post, hcut, .inr ⟨.inr ha, hw⟩⟩
  · rintro ⟨pre, post, hcut, ha | ⟨ha | ha, hw⟩⟩
    · exact .inr (.inl ⟨pre, post, hcut, ha⟩)
    · exact .inl ⟨pre, post, hcut, ha, hw⟩
    · exact .inr (.inr ⟨pre, post, hcut, ha, hw⟩)

/-! ## Rules that other rules make needless -/

namespace RuleTable

theorem isDead_states_final : Grammar.states.IsDead "final" where
  shape l r hr := by
    obtain ⟨before, final, hs, hn, hcovered⟩ : ∃ before final, Grammar.states.shapes =
        before ++ final :: [] ∧ (∀ s ∈ before, s.name ≠ "final") ∧ IsCovered before final := by
      refine ⟨Grammar.states.shapes.take 3, _, rfl, by decide, fun l hl => ?_⟩
      exact ⟨_, .tail _ (.head _), Grammar.starts_transitionLine_of_finalLine hl⟩
    rw [hs] at hr
    exact name_ne_of_find? (by simpa using hn) hcovered hr
  marker r hr := by cases hr

theorem isDead_flowchart_close : Grammar.flowchart.IsDead "subgraph_close" where
  shape l r hr := by
    have hname : ∀ s ∈ Grammar.flowchart.shapes, s.name ≠ "subgraph_close" := by decide
    exact hname r (List.mem_of_find?_eq_some hr)
  marker r hr hname l hl := by
    obtain rfl : r = Grammar.exactShape "subgraph_close" (Grammar.alone "end") := by
      cases hr with
      | head => exact absurd hname (by decide)
      | tail _ hr => exact List.mem_singleton.1 hr
    exact ⟨_, .head _, Grammar.starts_statement_of_end hl⟩

end RuleTable

/-- **The language of state diagrams, and two rules that decide nothing.**  The first arrow of a
    trimmed line without newlines decides.  Before it stands a word; or there stand brackets,
    opening ones first, or a star in brackets, and then a word has to follow the arrow.  A
    transition to a star is a transition like any other, and the end of a subgraph has the shape of
    a statement; no diagram is judged otherwise without the rules for them. -/
theorem transition_language :
    (∀ l, trim l = l → '\n' ∉ l → (AnyAccepts Grammar.states.bodyRules l ↔ ∃ pre post,
      FirstCut "-->".toList l pre post ∧ (IsWord (stripEnd isBlank pre) ∨
        (IsBrackets (stripEnd isBlank pre) ∨ stripEnd isBlank pre = "[*]".toList) ∧
          BeginsWord (post.dropWhile isBlank)))) ∧
    (∃ final transition, Grammar.states.rule? "final" = some final ∧
      Grammar.states.rule? "transition" = some transition ∧
      ∀ l, final.accepts l = true → transition.accepts l = true) ∧
    (∃ close statement, Grammar.flowchart.rule? "subgraph_close" = some close ∧
      Grammar.flowchart.rule? "statement" = some statement ∧
      ∀ l, close.accepts l = true → statement.accepts l = true) ∧
    (∀ ls, (Grammar.states.without "final").scan ls = Grammar.states.scan ls) ∧
    ∀ ls, (Grammar.flowchart.without "subgraph_close").scan ls = Grammar.flowchart.scan ls := by
  refine ⟨?language, ?final, ?close, ?states, ?flowchart⟩
  case language => exact fun l ht hn => anyAccepts_states_iff ht hn
  case final => exact ⟨_, _, rfl, rfl, fun _ => Grammar.starts_transitionLine_of_finalLine⟩
  case close => exact ⟨_, _, rfl, rfl, fun _ => Grammar.starts_statement_of_end⟩
  case states => exact RuleTable.isDead_states_final.scan_without
  case flowchart => exact RuleTable.isDead_flowchart_close.scan_without

/-- Of two arrows the first counts, and a star is no pair of brackets. -/
theorem transition_language_start :
    AnyAccepts Grammar.states.bodyRules "[*] --> Idle".toList ∧
    AnyAccepts Grammar.states.bodyRules "Idle --> [*] --> Idle".toList ∧
    ¬ AnyAccepts Grammar.states.bodyRules "[*] --> [*]".toList := by
  obtain ⟨hlanguage, -⟩ := transition_language
  have hstar : FirstCut "-->".toList "[*] --> [*]".toList "[*] ".toList " [*]".toList :=
    firstCut_of_notMem (a := "[*] ".toList) (by decide)
  refine ⟨?_, ?_, ?_⟩
  · refine (hlanguage _ (by decide) (by decide)).2 ⟨"[*] ".toList, " Idle".toList, ?_, .inr
      ⟨.inr (by decide), 'I', by decide, by decide⟩⟩
    exact firstCut_of_notMem (a := "[*] ".toList) (by decide)
  · refine (hlanguage _ (by decide) (by decide)).2 ⟨"Idle ".toList, " [*] --> Idle".toList,
      ?_, .inl ⟨by decide, List.all_eq_true.1 (by decide)⟩⟩
    exact firstCut_of_notMem (a := "Idle ".toList) (by decide)
  · rw [hlanguage _ (by decide) (by decide)]
    rintro ⟨pre, post, hcut, hside⟩
    obtain ⟨rfl, rfl⟩ := hcut.unique hstar
    have hend : stripEnd isBlank "[*] ".toList = "[*]".toList := by decide
    have hpost : " [*]".toList.dropWhile isBlank = "[*]".toList := by decide
    rw [hend, hpost] at hside
    rcases hside with hword | ⟨-, hword⟩
    · exact absurd (hword.2 '[' (.head _)) (by decide)
    · exact absurd (beginsWord_cons.1 hword) (by decide)

end DiagramLint
