/-
  Trimming, said in three ways.

  A line is trimmed by stripping its two ends.  The same comes of removing what an expression
  matches: a run of edge characters at the beginning of the text, or one at its end.

  * `edgeRuns`: this expression;
  * `IsCut s u`: edge characters around `u` make up `s`;
  * `IsTrimmed s u`: so they do, and `u` itself begins and ends in none;
  * `IsSkipped l`: the pass goes over the line, whatever the table is.

  `remove_edgeRuns`: removal trims.  `isTrimmed_iff`: nothing but the trimmed line is trimmed.
  `isSkipped_iff`: the pass goes over the lines that do not count.
-/
import Mathlib.Data.List.TakeWhile
import DiagramLint.Pattern.Removal
import DiagramLint.Proofs.Consuming
import DiagramLint.Proofs.Layout

namespace DiagramLint

open Text

variable {s u r : List Char} {c : Char} {l : Line} {ls : List Line}

/-! ## Removal of the edges -/

/-- The characters of the edges. -/
def edgeClass : CharClass := .among [.blank, .char '\uFEFF']

/-- A run of edge characters at the beginning of a text, and one at its end.  As an expression, this
    is `^[\s\uFEFF]+|[\s\uFEFF]+$`. -/
def edgeRuns : List Branch :=
  [⟨true, .many1 edgeClass⟩, ⟨false, .many1 edgeClass ++ .lineEnd⟩]

theorem holds_edgeClass (c : Char) : edgeClass.holds .exact c = isEdge c := by
  simp [edgeClass, CharClass.holds, ClassItem.anyCovers, ClassItem.covers, Folding.mates, isEdge]

/-- The longest run is tried first. -/
theorem exists_restsMany (holds : Char → Bool) (s : List Char) :
    ∃ rs, restsMany holds s = s.dropWhile holds :: rs := by
  induction s with
  | nil => exact ⟨[], rfl⟩
  | cons c s ih =>
    cases hc : holds c with
    | true =>
      obtain ⟨rs, hrs⟩ := ih
      exact ⟨rs ++ [c :: s], by simp [restsMany, hc, hrs]⟩
    | false => exact ⟨[], by simp [restsMany, hc]⟩

theorem rests_edgeRun (c : Char) (s : List Char) :
    (Pattern.many1 edgeClass).rests .exact (c :: s) =
      if isEdge c then restsMany isEdge s else [] := by
  have hholds : edgeClass.holds .exact = isEdge := funext holds_edgeClass
  rw [Pattern.rests, hholds]

theorem waysHere_edgeRuns_later (s : List Char) :
    waysHere edgeRuns false s = (Pattern.many1 edgeClass ++ .lineEnd).rests .exact s := by
  simp [waysHere, edgeRuns]

theorem waysHere_edgeRuns_first (s : List Char) : waysHere edgeRuns true s =
    (Pattern.many1 edgeClass).rests .exact s ++ waysHere edgeRuns false s := by
  simp [waysHere, edgeRuns]

/-- Nothing matches at a character that belongs to no edge. -/
theorem restHere?_edgeRuns_of_not (first : Bool) (s : List Char) (hc : isEdge c = false) :
    restHere? edgeRuns first (c :: s) = none := by
  have hrun : (Pattern.many1 edgeClass).rests .exact (c :: s) = [] := by
    rw [rests_edgeRun, hc]
    rfl
  have hlater : waysHere edgeRuns false (c :: s) = [] := by
    rw [waysHere_edgeRuns_later, Pattern.append_eq, Pattern.rests, hrun, List.flatMap_nil]
  cases first with
  | false => rw [restHere?, hlater, List.find?_nil]
  | true => rw [restHere?, waysHere_edgeRuns_first, hrun, hlater, List.append_nil, List.find?_nil]

/-- At the beginning of a text, the match takes all edge characters there. -/
theorem restHere?_edgeRuns_first (s : List Char) (hc : isEdge c = true) :
    restHere? edgeRuns true (c :: s) = some (s.dropWhile isEdge) := by
  obtain ⟨rs, hrs⟩ := exists_restsMany isEdge s
  have hlen : (s.dropWhile isEdge).length < (c :: s).length :=
    Nat.lt_succ_of_le (List.dropWhile_sublist isEdge).length_le
  rw [restHere?, waysHere_edgeRuns_first, rests_edgeRun, if_pos hc, hrs, List.cons_append]
  exact List.find?_cons_of_pos (decide_eq_true hlen)

/-- Elsewhere, what matches ends the text, with a newline at the very end or without. -/
theorem isEdge_of_consumes (h : Consumes .exact (.many1 edgeClass ++ .lineEnd) s r) :
    ∀ c ∈ s, isEdge c = true := by
  obtain ⟨t, hrun, hend⟩ := consumes_append_iff.1 h
  obtain ⟨v, -, hv, rfl⟩ := consumes_many1_iff.1 hrun
  obtain ⟨hend, -⟩ := consumes_lineEnd_iff.1 hend
  refine List.forall_mem_append.2 ⟨fun c hc => ?_, ?_⟩
  · rw [← holds_edgeClass]
    exact hv c hc
  · rcases hend with rfl | rfl
    · exact List.forall_mem_nil _
    · exact List.forall_mem_singleton.2 (by decide)

theorem restHere?_edgeRuns_end (h : ∀ x ∈ c :: s, isEdge x = true) :
    restHere? edgeRuns false (c :: s) = some [] := by
  obtain ⟨hc, hs⟩ := List.forall_mem_cons.1 h
  obtain ⟨rs, hrs⟩ := exists_restsMany isEdge s
  have hnil : s.dropWhile isEdge = [] := List.dropWhile_eq_nil_iff.2 hs
  rw [hnil] at hrs
  rw [restHere?, waysHere_edgeRuns_later, Pattern.append_eq, Pattern.rests, rests_edgeRun, if_pos hc,
    hrs, List.flatMap_cons]
  rfl

theorem restHere?_edgeRuns_inside (h : ¬ ∀ x ∈ s, isEdge x = true) :
    restHere? edgeRuns false s = none := by
  refine List.find?_eq_none.2 fun r hr => absurd ?_ h
  rw [waysHere_edgeRuns_later, Pattern.mem_rests_iff] at hr
  exact isEdge_of_consumes hr

/-- Behind the beginning, removal strips the end. -/
theorem removeFrom_edgeRuns (s : List Char) :
    removeFrom edgeRuns false 0 s = stripEnd isEdge s := by
  induction s with
  | nil => rfl
  | cons c s ih =>
    by_cases h : ∀ x ∈ c :: s, isEdge x = true
    · rw [removeFrom_cons_of_some (restHere?_edgeRuns_end h), removeFrom_nil,
        (stripEnd_eq_nil_iff isEdge).2 h]
    · have hkeep : ¬ (stripEnd isEdge s = [] ∧ isEdge c = true) := by
        rw [stripEnd_eq_nil_iff]
        rintro ⟨hs, hc⟩
        exact h (List.forall_mem_cons.2 ⟨hc, hs⟩)
      rw [removeFrom_cons_of_none (restHere?_edgeRuns_inside h), ih, stripEnd_cons, if_neg hkeep]

/-- **To remove what matches is to trim.** -/
theorem remove_edgeRuns (s : List Char) : remove edgeRuns s = trim s := by
  cases s with
  | nil => rfl
  | cons c s =>
    rw [remove, trim]
    cases hc : isEdge c with
    | true =>
      rw [removeFrom_cons_of_some (restHere?_edgeRuns_first s hc), removeFrom_edgeRuns,
        strip_cons_of_pos isEdge s hc, strip]
    | false =>
      rw [removeFrom_cons_of_none (restHere?_edgeRuns_of_not true s hc), removeFrom_edgeRuns,
        strip_cons_of_neg isEdge s hc]

/-! ## What is trimmed -/

/-- Cutting edge characters off the two ends of `s` leaves `u`. -/
def IsCut (s u : List Char) : Prop :=
  ∃ p q, s = p ++ u ++ q ∧ (∀ c ∈ p, isEdge c = true) ∧ ∀ c ∈ q, isEdge c = true

/-- Cutting edge characters off leaves `u`, and there are none left to cut off. -/
structure IsTrimmed (s u : List Char) : Prop where
  isCut : IsCut s u
  head : ∀ c ∈ u.head?, isEdge c = false
  last : ∀ c ∈ u.getLast?, isEdge c = false

theorem IsCut.trim_eq (h : IsCut s u) : trim s = trim u := by
  obtain ⟨p, q, rfl, hp, hq⟩ := h
  exact trim_append_append hp hq u

theorem isCut_trim (s : List Char) : IsCut s (trim s) := by
  obtain ⟨p, q, hp, hq, h⟩ := exists_eq_append_strip_append isEdge s
  rw [← List.append_assoc] at h
  exact ⟨p, q, h, hp, hq⟩

theorem isTrimmed_trim (s : List Char) : IsTrimmed s (trim s) where
  isCut := isCut_trim s
  head _ := isEdge_eq_false_of_mem_head?_trim
  last _ := isEdge_eq_false_of_mem_getLast?_trim

/-- **Nothing but the trimmed text is trimmed.** -/
theorem isTrimmed_iff : IsTrimmed s u ↔ trim s = u := by
  constructor
  · intro h
    rw [h.isCut.trim_eq, trim_eq_self h.head h.last]
  · rintro rfl
    exact isTrimmed_trim s

/-- Whatever is cut off leaves at least the trimmed text. -/
theorem IsCut.trim_infix (h : IsCut s u) : trim s <:+: u := by
  obtain ⟨p, q, hu, -, -⟩ := isCut_trim u
  rw [h.trim_eq]
  exact ⟨p, q, hu.symm⟩

/-! ## Lines that are skipped -/

/-- The pass goes over the line to the next one, whatever the table is and wherever it stands. -/
def IsSkipped (l : Line) : Prop :=
  ∀ (t : RuleTable) n seen ls, t.scanFrom n seen (l :: ls) = t.scanFrom (n + 1) seen ls

/-- The table that knows no line. -/
def RuleTable.knowingNothing : RuleTable where
  dialect := .unknown
  declaration := ⟨"", "", fun _ => false⟩
  shapes := []
  hint := ""
  declarationToken := ""

/-- **The pass goes over the lines that do not count**, trimmed. -/
theorem isSkipped_iff : IsSkipped l ↔ isMeaningful (trim l) = false := by
  rw [isMeaningful_trim]
  constructor
  · intro h
    rw [← Bool.not_eq_true]
    intro hl
    -- a line that counts is stray for a table that knows no line
    have hstray : RuleTable.knowingNothing.role (trim l) = .stray := rfl
    have hskip := h RuleTable.knowingNothing 1 ⟨true, true⟩ []
    rw [RuleTable.scanFrom_cons_of_stray [] hl hstray] at hskip
    have hvalid : false = true := congrArg Finding.isValid hskip
    cases hvalid
  · intro hl t n seen ls
    exact RuleTable.scanFrom_cons_of_not ls hl

instance (l : Line) : Decidable (IsSkipped l) := decidable_of_iff _ isSkipped_iff.symm

theorem elementCount_eq_countP_not_isSkipped (ls : List Line) :
    elementCount ls = ls.countP (¬ IsSkipped ·) := by
  refine List.countP_congr fun l _ => ?_
  rw [decide_eq_true_eq, isSkipped_iff, isMeaningful_trim, Bool.not_eq_false]

/-! ## Trimming -/

/-- **Trimming is exact.**  Removing the edge runs of a text, whatever newlines it has, leaves what
    begins and ends in no edge character and has such characters around it only; there is just one
    such text, it is the trimmed one, and it is part of whatever else is left between characters
    that are cut off.  So a trimmed line is its own trimmed form, and counts if the line does; and
    the lines that count are as many as those, trimmed already, that the pass does not go over. -/
theorem trim_exact :
    (∀ s u : List Char, remove edgeRuns s = u ↔ IsTrimmed s u) ∧
    (∀ s u : List Char, IsCut s u → remove edgeRuns s <:+: u) ∧
    (∀ s : List Char, trim s = remove edgeRuns s ∧ trim (trim s) = trim s ∧
      isMeaningful (trim s) = isMeaningful s) ∧
    ∀ ls : List Line, elementCount ls = (ls.map trim).countP isMeaningful ∧
      elementCount ls = ls.countP (¬ IsSkipped ·) := by
  refine ⟨fun s u => ?_, fun s u h => ?_, fun s => ?_, fun ls => ?_⟩
  · rw [remove_edgeRuns, isTrimmed_iff]
  · rw [remove_edgeRuns]
    exact h.trim_infix
  · exact ⟨(remove_edgeRuns s).symm, trim_trim s, isMeaningful_trim s⟩
  · exact ⟨(elementCount_map_trim ls).symm, elementCount_eq_countP_not_isSkipped ls⟩

/-- Blanks, newlines and byte order marks go at the ends, mixed as they are, and stay inside. -/
theorem trim_exact_mixed :
    let s := "\uFEFF \n\uFEFFa \uFEFF\n b\uFEFF\u2003\n".toList
    (remove edgeRuns s = "a \uFEFF\n b".toList ∧ IsTrimmed s "a \uFEFF\n b".toList) ∧
    (IsCut s "a \uFEFF\n b\uFEFF".toList ∧
      remove edgeRuns s <:+: "a \uFEFF\n b\uFEFF".toList) ∧
    elementCount [s, "\uFEFF%% b".toList, ['\uFEFF']] = 1 := by
  intro s
  obtain ⟨hexact, hleast, -, hcount⟩ := trim_exact
  have htrim : remove edgeRuns s = "a \uFEFF\n b".toList := by decide +kernel
  have hcut : IsCut s "a \uFEFF\n b\uFEFF".toList :=
    ⟨"\uFEFF \n\uFEFF".toList, "\u2003\n".toList, by decide +kernel,
      List.all_eq_true.1 (by decide +kernel), List.all_eq_true.1 (by decide +kernel)⟩
  refine ⟨⟨htrim, (hexact _ _).1 htrim⟩, ⟨hcut, hleast _ _ hcut⟩, ?_⟩
  rw [(hcount _).1]
  decide +kernel

end DiagramLint
