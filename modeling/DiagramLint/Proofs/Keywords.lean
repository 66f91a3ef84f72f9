/-
  Lines that a keyword opens.

  A keyword is a word of its own, so no word character may follow it.  The rules disregard case, and
  so the four letters that `fold` takes for one of ASCII are word characters here too: a keyword goes
  on in them.

  * `IsPrefixFree ws`: no word begins with another one, in whatever case;
  * `KeywordShape` and `keywordShapes`: the shapes of the grammars that ask for a keyword.

  `starts_keywordLine_iff`: of words that are prefix-free the line has one in front, or none, and
  what follows it decides.  `keyword_ends_iff`: so for every keyword of the grammars.
-/
import DiagramLint.Proofs.LetterCase
import DiagramLint.Proofs.Words

namespace DiagramLint

open Text

/-! ## Words that are told apart -/

/-- No word begins with another one, in whatever case. -/
def IsPrefixFree (ws : List String) : Prop :=
  ∀ w ∈ ws, ∀ v ∈ ws, w.toList.map fold <+: v.toList.map fold →
    w.toList.map fold = v.toList.map fold

/-- Of two words at the beginning of one text neither begins with the other, so they are the same. -/
theorem IsPrefixFree.eq_of_append_eq {ws : List String} (h : IsPrefixFree ws) {w v : String}
    (hw : w ∈ ws) (hv : v ∈ ws) {r t : List Char}
    (he : w.toList.map fold ++ r = v.toList.map fold ++ t) : r = t := by
  have hwv : w.toList.map fold = v.toList.map fold := by
    rcases List.append_eq_append_iff.1 he with ⟨x, hx, -⟩ | ⟨x, hx, -⟩
    · exact h w hw v hv ⟨x, hx.symm⟩
    · exact (h v hv w hw ⟨x, hx.symm⟩).symm
  rw [hwv] at he
  exact List.append_cancel_left he

/-! ## A keyword and what follows it -/

namespace Pattern

variable {f : Folding} {q : Pattern} {s r kw : List Char} {c : Char} {ws : List String} {w : String}

theorem starts_notAhead_append_cons {cls : CharClass} :
    (.notAhead cls ++ q).starts f (c :: s) = (!cls.holds f c && q.starts f (c :: s)) := rfl

theorem newline_mem_map_fold_iff : '\n' ∈ s.map fold ↔ '\n' ∈ s := by
  have hn : ∀ a, fold a = '\n' ↔ a = '\n' := fun a => by
    rw [← beq_iff_eq, fold_beq_newline, beq_iff_eq]
  simp [List.mem_map, hn]

/-- **A keyword ends where no word character follows**, whatever else is on the line. -/
theorem starts_keywordLine_iff (hws : IsPrefixFree ws) (hw : w ∈ ws)
    (hb : w.toList.head?.any (!isBlank ·) = true) (hkw : kw.map fold = w.toList.map fold)
    (hr : '\n' ∉ c :: r) : (Grammar.keywordLine ws).starts .caseless (kw ++ c :: r) = true ↔
      isNameChar (fold c) = false := by
  obtain ⟨a, ha, hab⟩ := (Option.any_eq_true _ _).1 hb
  obtain ⟨v, hv⟩ := List.head?_eq_some_iff.1 ha
  have hblank : CharClass.blank.holds .caseless (fold a) = false := by
    simpa [CharClass.holds] using hab
  have hline : (kw ++ c :: r).map fold = w.toList.map fold ++ fold c :: r.map fold := by
    rw [List.map_append, hkw, List.map_cons]
  -- the keyword begins with no blank, so no blanks are taken
  have hopen : (Grammar.keywordLine ws).starts .caseless (kw ++ c :: r) =
      (.anyOf ws ++ (.notAhead Grammar.wordChar ++ Grammar.rest)).starts .caseless
        (w.toList.map fold ++ fold c :: r.map fold) := by
    rw [Grammar.keywordLine, starts_append_assoc, starts_append_assoc, Grammar.blanks,
      ← starts_map_fold, hline, hv, List.map_cons, List.cons_append,
      starts_many_append_of_head hblank]
  have hafter : (.notAhead Grammar.wordChar ++ Grammar.rest).starts .caseless
      (fold c :: r.map fold) = !isNameChar (fold c) := by
    have hrest : Grammar.rest.starts .caseless (fold c :: r.map fold) = true :=
      starts_rest (mt (newline_mem_map_fold_iff (s := c :: r)).1 hr)
    rw [starts_notAhead_append_cons, hrest, holds_wordChar, fold_fold, Bool.and_true]
  rw [hopen, starts_anyOf_append_iff]
  simp only [starts_text_append_iff, ← hline, map_fold_map_fold]
  rw [hline, ← Bool.not_eq_true', ← hafter]
  constructor
  · rintro ⟨u, hu, t, ht, hq⟩
    obtain rfl := hws.eq_of_append_eq hw hu ht
    exact hq
  · intro hq
    exact ⟨w, hw, _, rfl, hq⟩

end Pattern

/-! ## The keywords of the grammars -/

/-- A shape of a grammar whose lines begin with one of some keywords. -/
structure KeywordShape where
  table : RuleTable
  name : String
  keywords : List String

/-- The shapes of the grammars that ask for a keyword. -/
def keywordShapes : List KeywordShape :=
  [⟨Grammar.sequence, "keyword", ["participant", "loop", "alt", "else", "end", "note", "actor"]⟩,
   ⟨Grammar.classes, "declaration_block", ["class", "interface", "enum"]⟩,
   ⟨Grammar.gantt, "directive", ["title", "dateFormat", "section"]⟩,
   ⟨Grammar.journey, "directive", ["title", "section"]⟩,
   ⟨Grammar.gitGraph, "command", ["commit", "branch", "checkout", "merge", "cherry-pick"]⟩]

namespace KeywordShape

variable {k : KeywordShape}

/-- The rule is in the table by its name. -/
theorem rule?_eq (hk : k ∈ keywordShapes) : k.table.rule? k.name =
    some (Grammar.shape k.name (Grammar.keywordLine k.keywords)) := by
  simp only [keywordShapes, List.mem_cons, List.not_mem_nil, or_false] at hk
  rcases hk with rfl | rfl | rfl | rfl | rfl <;> rfl

theorem isPrefixFree (hk : k ∈ keywordShapes) : IsPrefixFree k.keywords := by
  have table : ∀ k ∈ keywordShapes, ∀ w ∈ k.keywords, ∀ v ∈ k.keywords,
      w.toList.map fold <+: v.toList.map fold → w.toList.map fold = v.toList.map fold := by
    decide +kernel
  exact table k hk

theorem head?_not_isBlank (hk : k ∈ keywordShapes) {w : String} (hw : w ∈ k.keywords) :
    w.toList.head?.any (!isBlank ·) = true := by
  have table : ∀ k ∈ keywordShapes, ∀ w ∈ k.keywords,
      w.toList.head?.any (!isBlank ·) = true := by decide +kernel
  exact table k hk w hw

end KeywordShape

/-- **Where a keyword ends.**  For each shape that asks for a keyword, a keyword in capitals, small
    letters or both is taken for one exactly if the character behind it is neither a name character
    nor one of the four letters that differ from one of ASCII in case only.  Nothing else on the line
    matters. -/
theorem keyword_ends_iff {k : KeywordShape} (hk : k ∈ keywordShapes) :
    ∃ s, k.table.rule? k.name = some s ∧ ∀ w ∈ k.keywords, ∀ (kw : List Char) (c : Char)
      (r : List Char), small kw = small w.toList → c ≠ '\n' → '\n' ∉ r →
        (s.accepts (kw ++ c :: r) = true ↔ ¬ (isNameChar c = true ∨ c ∈ asciiKin)) := by
  refine ⟨_, KeywordShape.rule?_eq hk, fun w hw kw c r hkw hc hr => ?_⟩
  have hfold : kw.map fold = w.toList.map fold := by
    rw [← map_fold_small kw, hkw, map_fold_small]
  have hline : '\n' ∉ c :: r := by
    rw [List.mem_cons, not_or]
    exact ⟨hc.symm, hr⟩
  rw [← isNameChar_fold_iff, Bool.not_eq_true]
  exact Pattern.starts_keywordLine_iff (KeywordShape.isPrefixFree hk) hw
    (KeywordShape.head?_not_isBlank hk hw) hfold hline

/-- A note in capitals ends before an accented letter, and in small letters before no s, long or
    short. -/
theorem keyword_ends_iff_note : ∃ s, Grammar.sequence.rule? "keyword" = some s ∧
    s.accepts ("NOTE".toList ++ '\u00E9' :: " over A".toList) = true ∧
    s.accepts ("note".toList ++ 's' :: " over A".toList) = false ∧
    s.accepts ("note".toList ++ '\u017F' :: " over A".toList) = false := by
  obtain ⟨s, hs, h⟩ := keyword_ends_iff (k := ⟨Grammar.sequence, "keyword", _⟩) (.head _)
  have hnote : "note" ∈ ["participant", "loop", "alt", "else", "end", "note", "actor"] := by decide
  have hline : '\n' ∉ " over A".toList := by decide
  refine ⟨s, hs, ?_, ?_, ?_⟩
  · exact (h "note" hnote _ _ _ (by decide) (by decide) hline).2 (by decide)
  · rw [← Bool.not_eq_true, h "note" hnote _ _ _ rfl (by decide) hline]
    decide
  · rw [← Bool.not_eq_true, h "note" hnote _ _ _ rfl (by decide) hline]
    decide

/-- The dotless i is no character of ASCII, but no keyword ends before it. -/
theorem dotless_i_continues_keyword : ∃ s, Grammar.sequence.rule? "keyword" = some s ∧
    isNameChar '\u0131' = false ∧ s.accepts ("end".toList ++ ['\u0131']) = false := by
  exact ⟨_, rfl, by decide, by decide +kernel⟩

end DiagramLint
