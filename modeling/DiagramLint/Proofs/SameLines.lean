/-
  Diagrams that are made of the same lines.

  The pass looks at one line at a time.  Whether a line is stray, a declaration or of the required
  shape depends on nothing before it, so the verdict depends on the set of the lines that count.

  * `SameLines ls ms`: the same lines count, trimmed, in whatever order and how often they stand.

  `scan_of_sameLines`: two such diagrams have one finding, or a stray line each.
  `scan_eq_accepted_iff`: a diagram is accepted if no line is stray and nothing is missing; so two
  diagrams of a dialect that are accepted are accepted together.
-/
import DiagramLint.Proofs.Lines
import DiagramLint.Proofs.Outcome

namespace DiagramLint

open Text

variable {ls ms : List Line}

/-! ## The same lines -/

/-- The same lines count in both. -/
def SameLines (ls ms : List Line) : Prop := ∀ l, l ∈ meaningful ls ↔ l ∈ meaningful ms

theorem SameLines.any_eq (h : SameLines ls ms) (p : Line → Bool) :
    (meaningful ls).any p = (meaningful ms).any p := by
  rw [Bool.eq_iff_iff]
  simp only [List.any_eq_true, h _]

namespace RuleTable

variable {t : RuleTable}

theorem seen_eq_of_sameLines (h : SameLines ls ms) : t.seen ls = t.seen ms := by
  rw [seen, seen, h.any_eq, h.any_eq]

/-- A line is stray by what it holds, trimmed. -/
theorem no_stray_iff_meaningful :
    (∀ l ∈ ls, t.isStray l = false) ↔ ∀ l ∈ meaningful ls, t.role l ≠ .stray := by
  rw [forall_mem_meaningful]
  refine forall₂_congr fun l _ => ?_
  cases hm : isMeaningful l <;> simp [isStray, hm]

/-- Where some line is stray, the pass names a line that counts. -/
theorem exists_scan_eq_strayLine (h : ¬ ∀ l ∈ ls, t.isStray l = false) :
    ∃ k, ∃ l ∈ meaningful ls, t.scan ls = t.strayLine k l := by
  rcases t.no_stray_or_first_stray ls with hn | ⟨before, l, after, rfl, hb, hl⟩
  · exact absurd hn h
  · refine ⟨before.length + 1, trim l, ?_, scan_of_first_stray hb hl⟩
    exact mem_meaningful.2 ⟨l, by simp, (isStray_iff.1 hl).1, rfl⟩

/-- **The same lines have the same finding, or a stray line each.** -/
theorem scan_of_sameLines (t : RuleTable) (h : SameLines ls ms) :
    (t.scan ls = t.scan ms ∧ (t.scan ls).kind ≠ some .badSyntax) ∨
      ∃ k k', ∃ l ∈ meaningful ls, ∃ l' ∈ meaningful ms,
        t.scan ls = t.strayLine k l ∧ t.scan ms = t.strayLine k' l' := by
  -- a stray line is one that counts, so both diagrams have one or neither has
  have hiff : (∀ l ∈ ls, t.isStray l = false) ↔ ∀ l ∈ ms, t.isStray l = false := by
    simp only [no_stray_iff_meaningful, h _]
  by_cases hn : ∀ l ∈ ls, t.isStray l = false
  · refine .inl ⟨?_, ?_⟩
    · rw [scan_of_no_stray hn, scan_of_no_stray (hiff.1 hn), seen_eq_of_sameLines h]
    · rw [scan_of_no_stray hn]
      exact kind_conclude_ne _
  · obtain ⟨k, l, hl, hs⟩ := exists_scan_eq_strayLine hn
    obtain ⟨k', l', hl', hs'⟩ := exists_scan_eq_strayLine fun hm => hn (hiff.2 hm)
    exact .inr ⟨k, k', l, hl, l', hl', hs, hs'⟩

/-! ## Accepted diagrams -/

theorem conclude_eq_accepted_iff {s : Seen} :
    t.conclude s = .accepted ↔ s.declaration = true ∧ s.required = true := by
  obtain ⟨d, r⟩ := s
  cases d <;> cases r <;>
    simp [conclude, missingDeclaration, missingRequired, Finding.rejected, Finding.accepted]

/-- **A diagram is accepted if no line is stray and nothing is missing.** -/
theorem scan_eq_accepted_iff : t.scan ls = .accepted ↔
    (∀ l ∈ ls, t.isStray l = false) ∧ (t.seen ls).declaration = true ∧
      (t.seen ls).required = true := by
  by_cases hn : ∀ l ∈ ls, t.isStray l = false
  · rw [scan_of_no_stray hn, conclude_eq_accepted_iff, and_iff_right hn]
  · obtain ⟨k, l, -, hs⟩ := exists_scan_eq_strayLine hn
    rw [hs]
    simp [hn, strayLine, Finding.rejected, Finding.accepted]

theorem scan_append_eq_accepted (hl : t.scan ls = .accepted) (hm : t.scan ms = .accepted) :
    t.scan (ls ++ ms) = .accepted := by
  obtain ⟨hn, hd, hr⟩ := scan_eq_accepted_iff.1 hl
  obtain ⟨hn', -, -⟩ := scan_eq_accepted_iff.1 hm
  refine scan_eq_accepted_iff.2 ⟨List.forall_mem_append.2 ⟨hn, hn'⟩, ?_, ?_⟩
  · have hd' : (meaningful ls).any t.declaration.accepts = true := hd
    simp [seen, hd']
  · have hr' : (t.required.isNone || (meaningful ls).any t.isRequired) = true := hr
    simp only [seen, meaningful_append, List.any_append, ← Bool.or_assoc, hr', Bool.true_or]

end RuleTable

/-! ## Texts one behind the other -/

theorem elementCount_append (ls ms : List Line) :
    elementCount (ls ++ ms) = elementCount ls + elementCount ms := List.countP_append ..

/-- What follows a diagram of a dialect does not change the dialect. -/
theorem detect_append_of_ne (h : detect ls ≠ .unknown) (ms : List Line) :
    detect (ls ++ ms) = detect ls := by
  obtain ⟨_, -, ht⟩ := exists_isDeclared_of_detect h
  exact detect_append_of_exists ht.exists_isMeaningful ms

variable {s : String} {d : Diagnostic}

theorem Diagnostic.isValid_eq_true_iff : d.isValid = true ↔ d.verdict = .accepted := by
  cases h : d.verdict <;> simp [Diagnostic.isValid, Verdict.problem?, h]

theorem Diagnostic.finding_eq_accepted_iff : d.finding = .accepted ↔ d.verdict = .accepted := by
  rw [← isValid_eq_true_iff]
  constructor
  · intro h
    exact congrArg Finding.isValid h
  · intro h
    obtain ⟨v, dialect, count⟩ := d
    rw [isValid_eq_true_iff] at h
    simp only at h
    subst h
    rfl

namespace Engine

open Diagnostic

/-- **The standard engine finds a text valid if the table of its dialect accepts the lines.** -/
theorem standard_valid_iff : (standard.validate (.text s)).value = .ok d ∧ d.isValid = true ↔
    ∃ t, Grammar.table? (detect (lines s)) = some t ∧ t.scan (lines s) = .accepted ∧
      d = ⟨.accepted, (detect (lines s)).name, elementCount (lines s)⟩ := by
  by_cases hu : detect (lines s) = .unknown
  · rw [validate_text_of_unknown hu, hu]
    constructor
    · rintro ⟨⟨⟩, hv⟩
      split at hv <;> cases hv
    · rintro ⟨t, ⟨⟩, -⟩
  obtain ⟨t, ht, -⟩ := exists_isDeclared_of_detect hu
  obtain ⟨x, hx, hf, htype, hcount⟩ := exists_standard_validate ht
  rw [hx, isValid_eq_true_iff]
  constructor
  · rintro ⟨⟨⟩, hv⟩
    refine ⟨t, ht, hf ▸ finding_eq_accepted_iff.2 hv, ?_⟩
    rw [← htype, ← hcount, ← hv]
  · rintro ⟨t', ht', ha, rfl⟩
    obtain rfl : t = t' := Option.some.inj (ht.symm.trans ht')
    have hv := finding_eq_accepted_iff.1 (hf.trans ha)
    refine ⟨?_, rfl⟩
    rw [← htype, ← hcount, ← hv]

/-- **The verdict depends on the set of the lines that count.**  Two diagrams in which the same lines
    count are both valid or rejected for the same kind of problem.  They have the same finding,
    except that two stray lines may differ in number and text.  So texts of one dialect that are
    valid are valid one behind the other, and the lines that count add up. -/
theorem verdict_of_sameLines :
    (∀ (t : RuleTable) (ls ms : List Line), SameLines ls ms →
      (t.scan ls).isValid = (t.scan ms).isValid ∧ (t.scan ls).kind = (t.scan ms).kind ∧
      ((t.scan ls).kind ≠ some .badSyntax → t.scan ls = t.scan ms) ∧
      ((t.scan ls).kind = some .badSyntax → ∃ k k', ∃ l ∈ meaningful ls, ∃ l' ∈ meaningful ms,
        t.scan ls = t.strayLine k l ∧ t.scan ms = t.strayLine k' l')) ∧
    ∀ (a b : String) (d d' : Diagnostic), (standard.validate (.text a)).value = .ok d →
      (standard.validate (.text b)).value = .ok d' → d.isValid = true → d'.isValid = true →
      d.diagramType = d'.diagramType →
      ∃ x, (standard.validate (.text (a ++ "\n" ++ b))).value = .ok x ∧ x.isValid = true ∧
        x.diagramType = d.diagramType ∧ x.elementCount = d.elementCount + d'.elementCount := by
  constructor
  · intro t ls ms h
    rcases RuleTable.scan_of_sameLines t h with ⟨hs, hk⟩ | ⟨k, k', l, hl, l', hl', hs, hs'⟩
    · rw [← hs]
      exact ⟨rfl, rfl, fun _ => rfl, fun hk' => absurd hk' hk⟩
    · refine ⟨?_, ?_, fun hk => ?_, fun _ => ⟨k, k', l, hl, l', hl', hs, hs'⟩⟩
      · rw [hs, hs']
        rfl
      · rw [hs, hs']
        rfl
      · rw [hs] at hk
        exact absurd rfl hk
  · intro a b d d' ha hb hv hv' htype
    -- both texts are of one dialect, so one table accepts the lines of both
    obtain ⟨t, ht, hscan, rfl⟩ := standard_valid_iff.1 ⟨ha, hv⟩
    obtain ⟨t', ht', hscan', rfl⟩ := standard_valid_iff.1 ⟨hb, hv'⟩
    have hd : detect (lines a) = detect (lines b) := Dialect.name_injective htype
    obtain rfl : t = t' := by
      rw [hd, ht'] at ht
      exact (Option.some.inj ht).symm
    have hu : detect (lines a) ≠ .unknown := by
      intro hu
      rw [hu] at ht
      cases ht
    have hab : detect (lines (a ++ "\n" ++ b)) = detect (lines a) := by
      rw [lines_append_newline, detect_append_of_ne hu]
    have hcount : elementCount (lines (a ++ "\n" ++ b)) =
        elementCount (lines a) + elementCount (lines b) := by
      rw [lines_append_newline, elementCount_append]
    have hacc : t.scan (lines (a ++ "\n" ++ b)) = .accepted := by
      rw [lines_append_newline]
      exact RuleTable.scan_append_eq_accepted hscan hscan'
    obtain ⟨hx, hxv⟩ := standard_valid_iff.2 ⟨t, hab ▸ ht, hacc, rfl⟩
    exact ⟨_, hx, hxv, congrArg Dialect.name hab, hcount⟩

/-- The entry of a pie chart may stand above its declaration, and stand twice; and a valid chart may
    be written twice. -/
theorem verdict_of_sameLines_pie :
    Grammar.pie.scan ["\"a\" : 1".toList, " pie".toList, "\"a\" : 1 ".toList] =
      Grammar.pie.scan ["pie".toList, "\"a\" : 1".toList] ∧
    ∃ x, (standard.validate (.text ("pie\n\"a\" : 1" ++ "\n" ++ "pie\n\"a\" : 1"))).value = .ok x ∧
      x.isValid = true ∧ x.elementCount = 4 := by
  have hsame : SameLines ["\"a\" : 1".toList, " pie".toList, "\"a\" : 1 ".toList]
      ["pie".toList, "\"a\" : 1".toList] := by
    intro l
    have h₁ : meaningful ["\"a\" : 1".toList, " pie".toList, "\"a\" : 1 ".toList] =
      ["\"a\" : 1".toList, "pie".toList, "\"a\" : 1".toList] := by decide +kernel
    have h₂ : meaningful ["pie".toList, "\"a\" : 1".toList] =
      ["pie".toList, "\"a\" : 1".toList] := by decide +kernel
    rw [h₁, h₂]
    simp only [List.mem_cons, List.not_mem_nil, or_false]
    constructor
    · rintro (h | h | h)
      · exact .inr h
      · exact .inl h
      · exact .inr h
    · exact .inr
  have hkind : (Grammar.pie.scan ["\"a\" : 1".toList, " pie".toList,
      "\"a\" : 1 ".toList]).kind ≠ some .badSyntax := by decide +kernel
  have hpie : (standard.validate (.text "pie\n\"a\" : 1")).value = .ok ⟨.accepted, "pie", 2⟩ := by
    rfl
  obtain ⟨x, hx, hv, -, hcount⟩ := verdict_of_sameLines.2 _ _ _ _ hpie hpie rfl rfl rfl
  exact ⟨(verdict_of_sameLines.1 _ _ _ hsame).2.2.1 hkind, x, hx, hv, hcount⟩

end Engine

end DiagramLint
