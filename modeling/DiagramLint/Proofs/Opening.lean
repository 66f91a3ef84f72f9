/-
  The lines that open a diagram.

  * `Opening d s`: the folded text `s` opens a diagram of the dialect `d`.  It is a word of the
    dialect; a flowchart may have a direction, and a pie chart a title;
  * `AllBlank`: the text consists of blanks.

  The lemmas on `Pattern.starts` read a rule from its front, one part at a time.
  `accepts_declaration_iff`: the declaration of a grammar accepts the lines whose folded form is an
  opening.
-/
import DiagramLint.Detect
import DiagramLint.Proofs.Casing
import DiagramLint.Proofs.Consuming

namespace DiagramLint

open Text

/-! ## Openings -/

/-- The text consists of blanks. -/
def AllBlank (s : List Char) : Prop := ∀ c ∈ s, isBlank c = true

/-- The text is a title on one line, with blanks behind it. -/
def IsTitle (s : List Char) : Prop :=
  ∃ v b, v ≠ [] ∧ (∀ c ∈ v, c ≠ '\n') ∧ AllBlank b ∧ s = v ++ b

/-- The words that open the diagrams of a dialect, folded. -/
def openingWords : List (Dialect × String) :=
  [(.flowchart, "graph"), (.flowchart, "flowchart"), (.sequence, "sequencediagram"),
   (.classes, "classdiagram"), (.states, "statediagram"), (.states, "statediagram-v2"),
   (.entities, "erdiagram"), (.gantt, "gantt"), (.journey, "journey"), (.pie, "pie"),
   (.gitGraph, "gitgraph"), (.mindmap, "mindmap")]

/-- The directions of a flowchart, folded. -/
def directions : List String := ["tb", "td", "bt", "rl", "lr"]

/-- The folded text opens a diagram of the dialect. -/
inductive Opening : Dialect → List Char → Prop
  | word {d w b} : (d, w) ∈ openingWords → AllBlank b → Opening d (w.toList ++ b)
  | direction {w v b b'} : (.flowchart, w) ∈ openingWords → AllBlank b → v ∈ directions →
      AllBlank b' → Opening .flowchart (w.toList ++ (b ++ (v.toList ++ b')))
  | title {b b' r} : AllBlank b → b' ≠ [] → AllBlank b' → IsTitle r →
      Opening .pie ("pie".toList ++ (b ++ ("title".toList ++ (b' ++ r))))

theorem allBlank_append {a b : List Char} : AllBlank (a ++ b) ↔ AllBlank a ∧ AllBlank b :=
  List.forall_mem_append

/-- A dialect with one word only, no directions and no titles has that word for its opening. -/
theorem opening_iff_of_word {d : Dialect} {w : String} {s : List Char}
    (h : ∀ v, (d, v) ∈ openingWords ↔ v = w) (hd : d ≠ .flowchart ∧ d ≠ .pie) :
    Opening d s ↔ ∃ b, s = w.toList ++ b ∧ AllBlank b := by
  constructor
  · intro ho
    cases ho with
    | word hw hb =>
      rw [(h _).1 hw]
      exact ⟨_, rfl, hb⟩
    | direction => exact absurd rfl hd.1
    | title => exact absurd rfl hd.2
  · rintro ⟨b, rfl, hb⟩
    exact .word ((h w).2 rfl) hb

/-! ## Reading a rule -/

namespace Pattern

variable {f : Folding} {p q : Pattern} {s : List Char}

theorem starts_append_iff :
    (p ++ q).starts f s = true ↔ ∃ t, Consumes f p s t ∧ q.starts f t = true := by
  simp only [starts_iff, consumes_append_iff]
  constructor
  · rintro ⟨r, t, hp, hq⟩
    exact ⟨t, hp, r, hq⟩
  · rintro ⟨t, hp, r, hq⟩
    exact ⟨r, t, hp, hq⟩

theorem starts_append_assoc (p q p' : Pattern) :
    ((p ++ q) ++ p').starts f s = (p ++ (q ++ p')).starts f s := rfl

theorem starts_text_append_iff {w : String} : (.text w ++ q).starts .caseless s = true ↔
    ∃ r, s.map fold = w.toList.map fold ++ r ∧ q.starts .caseless r = true := by
  simp only [starts_append_iff, consumes_word_iff]
  constructor
  · rintro ⟨t, ⟨v, hv, rfl⟩, hq⟩
    refine ⟨t.map fold, ?_, by rw [starts_map_fold, hq]⟩
    rw [List.map_append]
    exact congrArg (· ++ t.map fold) hv
  · rintro ⟨r, hr, hq⟩
    obtain ⟨v, t, rfl, hv, rfl⟩ := List.map_eq_append_iff.1 hr
    exact ⟨t, ⟨v, hv, rfl⟩, by rw [← starts_map_fold, hq]⟩

theorem starts_anyOf_append_iff {ws : List String} : (.anyOf ws ++ q).starts f s = true ↔
    ∃ w ∈ ws, (.text w ++ q).starts f s = true := by
  simp only [starts_append_iff, consumes_anyOf_iff]
  constructor
  · rintro ⟨t, ⟨w, hw, h⟩, hq⟩
    exact ⟨w, hw, t, h, hq⟩
  · rintro ⟨w, hw, t, h, hq⟩
    exact ⟨t, ⟨w, hw, h⟩, hq⟩

theorem starts_many_append_iff {cls : CharClass} : (.many cls ++ q).starts f s = true ↔
    ∃ b r, (∀ c ∈ b, cls.holds f c = true) ∧ s = b ++ r ∧ q.starts f r = true := by
  simp only [starts_append_iff, consumes_many_iff]
  constructor
  · rintro ⟨r, ⟨b, hb, hs⟩, hq⟩
    exact ⟨b, r, hb, hs, hq⟩
  · rintro ⟨b, r, hb, hs, hq⟩
    exact ⟨r, ⟨b, hb, hs⟩, hq⟩

/-- Where the class does not have the first character, nothing is taken. -/
theorem starts_many_append_of_head {cls : CharClass} {c : Char} (h : cls.holds f c = false) :
    (.many cls ++ q).starts f (c :: s) = q.starts f (c :: s) := by
  simp [starts, leaves_append, leaves, leavesMany, h]

theorem starts_blanks_append_iff : (Grammar.blanks ++ q).starts f s = true ↔
    ∃ b r, AllBlank b ∧ s = b ++ r ∧ q.starts f r = true := starts_many_append_iff

/-- A trimmed line begins with no blanks. -/
theorem starts_blanks_append_of_trim (h : trim s = s) :
    (Grammar.blanks ++ q).starts f s = q.starts f s := by
  cases s with
  | nil => rfl
  | cons c s =>
    have hc : c ∈ (trim (c :: s)).head? := by
      rw [h]
      rfl
    have hedge := isEdge_eq_false_of_mem_head?_trim hc
    rw [isEdge, Bool.or_eq_false_iff] at hedge
    exact starts_many_append_of_head hedge.1

theorem starts_opt_append_iff : (.opt p ++ q).starts f s = true ↔
    q.starts f s = true ∨ (p ++ q).starts f s = true := by
  simp only [starts_append_iff, consumes_opt_iff]
  constructor
  · rintro ⟨t, rfl | hp, hq⟩
    · exact .inl hq
    · exact .inr ⟨t, hp, hq⟩
  · rintro (hq | ⟨t, hp, hq⟩)
    · exact ⟨s, .inl rfl, hq⟩
    · exact ⟨t, .inr hp, hq⟩

/-- Blanks up to the end of the line are blanks up to the end of the text. -/
theorem starts_finish_iff : Grammar.finish.starts f s = true ↔ AllBlank s := by
  have hn : isBlank '\n' = true := rfl
  rw [Grammar.finish, starts_blanks_append_iff]
  simp only [starts_iff, consumes_lineEnd_iff, exists_and_left, exists_eq, and_true]
  constructor
  · rintro ⟨b, hb, r, rfl, rfl | rfl⟩
    · exact allBlank_append.2 ⟨hb, by simp [AllBlank]⟩
    · exact allBlank_append.2 ⟨hb, by simp [AllBlank, hn]⟩
  · intro h
    exact ⟨s, h, [], (List.append_nil s).symm, .inl rfl⟩

theorem starts_alone_iff {w : String} : (Grammar.alone w).starts .caseless s = true ↔
    ∃ b, s.map fold = w.toList.map fold ++ b ∧ AllBlank b := by
  simp only [Grammar.alone, starts_text_append_iff, starts_finish_iff]

theorem starts_title_iff :
    (.many1 .dot ++ Grammar.finish).starts f s = true ↔ IsTitle s := by
  simp only [starts_append_iff, consumes_many1_iff, starts_finish_iff, CharClass.holds,
    bne_iff_ne]
  constructor
  · rintro ⟨b, ⟨v, hne, hv, rfl⟩, hb⟩
    exact ⟨v, b, hne, hv, hb, rfl⟩
  · rintro ⟨v, b, hne, hv, hb, rfl⟩
    exact ⟨b, ⟨v, hne, hv, rfl⟩, hb⟩

theorem starts_many1_append_iff {cls : CharClass} : (.many1 cls ++ q).starts f s = true ↔
    ∃ b r, b ≠ [] ∧ (∀ c ∈ b, cls.holds f c = true) ∧ s = b ++ r ∧ q.starts f r = true := by
  simp only [starts_append_iff, consumes_many1_iff]
  constructor
  · rintro ⟨r, ⟨b, hne, hb, hs⟩, hq⟩
    exact ⟨b, r, hne, hb, hs, hq⟩
  · rintro ⟨b, r, hne, hb, hs, hq⟩
    exact ⟨r, ⟨b, hne, hb, hs⟩, hq⟩

/-- Whatever is left of a line without newlines is its rest. -/
theorem starts_rest (h : '\n' ∉ s) : Grammar.rest.starts f s = true := by
  refine starts_many_append_iff.2 ⟨s, [], fun c hc => ?_, (List.append_nil s).symm, rfl⟩
  rw [CharClass.holds, bne_iff_ne]
  rintro rfl
  exact h hc

theorem starts_many1_blank_append_iff : (.many1 .blank ++ q).starts f s = true ↔
    ∃ b r, b ≠ [] ∧ AllBlank b ∧ s = b ++ r ∧ q.starts f r = true := starts_many1_append_iff

end Pattern

/-! ## The declarations of the grammars -/

variable {l : Line}

theorem map_fold_map_fold (l : Line) : (l.map fold).map fold = l.map fold := by
  simp [Function.comp_def, fold_fold]

theorem map_fold_of_append {a b : List Char} (h : l.map fold = a ++ b) : b.map fold = b := by
  obtain ⟨l₁, l₂, -, -, rfl⟩ := List.map_eq_append_iff.1 h
  exact map_fold_map_fold l₂

theorem accepts_flowchart_iff : Grammar.flowchart.declaration.accepts l = true ↔
    Opening .flowchart (l.map fold) := by
  show (Pattern.starts .caseless _ l) = true ↔ _
  rw [Pattern.starts_append_assoc, Pattern.starts_append_assoc]
  simp only [Pattern.starts_anyOf_append_iff, Pattern.starts_text_append_iff,
    Pattern.starts_blanks_append_iff, Pattern.starts_opt_append_iff, Pattern.starts_finish_iff]
  have hw : ∀ w ∈ ["graph", "flowchart"], (.flowchart, w) ∈ openingWords ∧
      w.toList.map fold = w.toList := by decide
  have hv : ∀ v ∈ ["TB", "TD", "BT", "RL", "LR"], ∃ v' ∈ directions,
      v.toList.map fold = v'.toList := by decide
  have hw' : ∀ w, (.flowchart, w) ∈ openingWords → w ∈ ["graph", "flowchart"] := by
    simp [openingWords]
  have hv' : ∀ v ∈ directions, ∃ v' ∈ ["TB", "TD", "BT", "RL", "LR"],
      v'.toList.map fold = v.toList := by decide
  constructor
  · rintro ⟨w, hm, _, hl, b, r, hb, rfl, hr | ⟨v, hd, b', hr, hb'⟩⟩
    · rw [hl, (hw w hm).2]
      exact .word (hw w hm).1 (allBlank_append.2 ⟨hb, hr⟩)
    · obtain ⟨v', hv'm, hv'⟩ := hv v hd
      rw [← List.append_assoc] at hl
      rw [hl, (hw w hm).2, ← map_fold_of_append hl, hr, hv', List.append_assoc]
      exact .direction (hw w hm).1 hb hv'm hb'
  · intro h
    generalize hs : l.map fold = s at h
    cases h with
    | @word _ w b hm hb =>
      have hm' := hw' w hm
      refine ⟨w, hm', b, by rw [(hw w hm').2], b, [], hb, (List.append_nil b).symm, .inl ?_⟩
      simp [AllBlank]
    | @direction w v b b' hm hb hd hb' =>
      have hm' := hw' w hm
      obtain ⟨v', hv'm, hv'⟩ := hv' v hd
      refine ⟨w, hm', _, by rw [(hw w hm').2], b, v.toList ++ b', hb, rfl,
        .inr ⟨v', hv'm, b', ?_, hb'⟩⟩
      rw [← List.append_assoc] at hs
      rw [map_fold_of_append hs, hv']

theorem accepts_states_iff : Grammar.states.declaration.accepts l = true ↔
    Opening .states (l.map fold) := by
  show (Pattern.starts .caseless _ l) = true ↔ _
  rw [Pattern.starts_append_assoc]
  simp only [Pattern.starts_text_append_iff, Pattern.starts_opt_append_iff,
    Pattern.starts_finish_iff]
  have hw : ∀ w, (.states, w) ∈ openingWords ↔ w = "statediagram" ∨ w = "statediagram-v2" := by
    simp [openingWords]
  have he : "stateDiagram".toList.map fold = "statediagram".toList := by decide
  have hv : "-v2".toList.map fold = "-v2".toList := by decide
  have hev : "statediagram-v2".toList = "statediagram".toList ++ "-v2".toList := by decide
  rw [he, hv]
  constructor
  · rintro ⟨r, hl, hr | ⟨b, hr, hb⟩⟩
    · rw [hl]
      exact .word ((hw _).2 (.inl rfl)) hr
    · rw [hl, ← map_fold_of_append hl, hr, ← List.append_assoc, ← hev]
      exact .word ((hw _).2 (.inr rfl)) hb
  · intro h
    generalize hs : l.map fold = s at h
    cases h with
    | @word _ w b hm hb =>
      rcases (hw w).1 hm with rfl | rfl
      · exact ⟨b, rfl, .inl hb⟩
      · rw [hev, List.append_assoc] at hs ⊢
        exact ⟨_, rfl, .inr ⟨b, map_fold_of_append hs, hb⟩⟩

theorem accepts_pie_iff : Grammar.pie.declaration.accepts l = true ↔
    Opening .pie (l.map fold) := by
  show (Pattern.starts .caseless _ l) = true ↔ _
  rw [Pattern.starts_append_assoc, Pattern.starts_append_assoc]
  simp only [Pattern.starts_text_append_iff, Pattern.starts_blanks_append_iff,
    Pattern.starts_opt_append_iff, Pattern.starts_finish_iff, Pattern.starts_append_assoc,
    Pattern.starts_many1_blank_append_iff, Pattern.starts_title_iff]
  have hw : ∀ w, (.pie, w) ∈ openingWords ↔ w = "pie" := by simp [openingWords]
  have he : "pie".toList.map fold = "pie".toList := by decide
  have ht : "title".toList.map fold = "title".toList := by decide
  rw [he, ht]
  constructor
  · rintro ⟨_, hl, b, r, hb, rfl, hr | ⟨_, hr, b', r', hne, hb', rfl, ht⟩⟩
    · rw [hl]
      exact .word ((hw _).2 rfl) (allBlank_append.2 ⟨hb, hr⟩)
    · rw [← List.append_assoc] at hl
      rw [hl, ← map_fold_of_append hl, hr, List.append_assoc]
      exact .title hb hne hb' ht
  · intro h
    generalize hs : l.map fold = s at h
    cases h with
    | @word _ w b hm hb =>
      obtain rfl := (hw w).1 hm
      exact ⟨b, rfl, b, [], hb, (List.append_nil b).symm, .inl (by simp [AllBlank])⟩
    | @title b b' r hb hne hb' ht =>
      refine ⟨_, rfl, b, _, hb, rfl, .inr ⟨b' ++ r, ?_, b', r, hne, hb', rfl, ht⟩⟩
      rw [← List.append_assoc] at hs
      exact map_fold_of_append hs

theorem accepts_alone_iff (d : Dialect) {w : String} (v : String)
    (h : ∀ u, (d, u) ∈ openingWords ↔ u = v) (hd : d ≠ .flowchart ∧ d ≠ .pie)
    (hw : w.toList.map fold = v.toList) :
    (Grammar.declaration (Grammar.alone w)).accepts l = true ↔ Opening d (l.map fold) := by
  rw [opening_iff_of_word h hd, ← hw]
  exact Pattern.starts_alone_iff

/-- **The declaration of a grammar accepts the lines whose folded form is an opening.** -/
theorem accepts_declaration_iff {t : RuleTable} (ht : t ∈ Grammar.tables) :
    t.declaration.accepts l = true ↔ Opening t.dialect (l.map fold) := by
  simp only [Grammar.tables, List.mem_cons, List.not_mem_nil, or_false] at ht
  rcases ht with rfl | rfl | rfl | rfl | rfl | rfl | rfl | rfl | rfl | rfl
  · exact accepts_flowchart_iff
  · exact accepts_alone_iff .sequence "sequencediagram" (by simp [openingWords]) (by decide) rfl
  · exact accepts_alone_iff .classes "classdiagram" (by simp [openingWords]) (by decide) rfl
  · exact accepts_states_iff
  · exact accepts_alone_iff .entities "erdiagram" (by simp [openingWords]) (by decide) rfl
  · exact accepts_alone_iff .gantt "gantt" (by simp [openingWords]) (by decide) rfl
  · exact accepts_alone_iff .journey "journey" (by simp [openingWords]) (by decide) rfl
  · exact accepts_pie_iff
  · exact accepts_alone_iff .gitGraph "gitgraph" (by simp [openingWords]) (by decide) rfl
  · exact accepts_alone_iff .mindmap "mindmap" (by simp [openingWords]) (by decide) rfl

end DiagramLint
