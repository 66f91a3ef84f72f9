/-
  Lines that do not count.

  A comment or a blank line may be put in anywhere.  Detection, counting and the pass each skip it;
  only the number of a stray line behind it grows by one.

  * `Finding.movedBehind p f`: the finding `f` once there is a line more behind the first `p`;
  * `Engine.ScansTables`: every validator of the engine scans by a table.

  `scan_skip`: the finding of a table moves.  `exists_validate_insertLine`: so does the answer of an
  engine.
-/
import DiagramLint.Proofs.Lines
import DiagramLint.Proofs.Validation

namespace DiagramLint

open Text

variable {c : Line} {before after ls : List Line} {p : Nat}

/-! ## Skipping a line -/

theorem insertIdx_eq_take_append_cons_drop (hp : p ≤ ls.length) :
    ls.insertIdx p c = ls.take p ++ c :: ls.drop p := by
  induction p generalizing ls with
  | zero => rfl
  | succ p ih =>
    cases ls with
    | nil => simp at hp
    | cons l ls =>
      rw [List.insertIdx_succ_cons, ih (Nat.le_of_succ_le_succ hp)]
      rfl

theorem meaningful_skip (hc : isMeaningful c = false) :
    meaningful (before ++ c :: after) = meaningful (before ++ after) := by
  simp [meaningful, hc]

theorem elementCount_skip (hc : isMeaningful c = false) :
    elementCount (before ++ c :: after) = elementCount (before ++ after) := by
  rw [elementCount_eq_length, elementCount_eq_length, meaningful_skip hc]

theorem detect_skip (hc : isMeaningful c = false) :
    detect (before ++ c :: after) = detect (before ++ after) := by
  simp only [detect, detectAmong, List.find?_append, List.find?_cons, hc]

/-! ## Findings behind a new line -/

/-- The finding once there is a line more behind the first `p`.  A stray line has its number from
    its place; every other line is pointed at for being the first or the second. -/
def Finding.movedBehind (p : Nat) (f : Finding) : Finding :=
  if f.kind = some .badSyntax then
    { f with line := f.line.map fun k => if (p : Int) < k then k + 1 else k }
  else f

namespace Finding

variable {f : Finding}

@[simp] theorem isValid_movedBehind : (f.movedBehind p).isValid = f.isValid := by
  unfold movedBehind; split <;> rfl

@[simp] theorem error_movedBehind : (f.movedBehind p).error = f.error := by
  unfold movedBehind; split <;> rfl

@[simp] theorem kind_movedBehind : (f.movedBehind p).kind = f.kind := by
  unfold movedBehind; split <;> rfl

@[simp] theorem hint_movedBehind : (f.movedBehind p).hint = f.hint := by
  unfold movedBehind; split <;> rfl

theorem line_movedBehind : (f.movedBehind p).line =
    if f.kind = some .badSyntax then f.line.map fun k => if (p : Int) < k then k + 1 else k
    else f.line := by
  unfold movedBehind; split <;> rfl

theorem movedBehind_eq_self (h : f.kind ≠ some .badSyntax) : f.movedBehind p = f := if_neg h

/-- The line that a finding points at is the usual one of its kind: the stray line itself, the
    second for what is missing in it, and the first for everything else. -/
def Located (f : Finding) : Prop :=
  match f.kind with
  | none => f.isValid = true ∧ f.line = none
  | some .badSyntax => ∃ k : Nat, f.line = some (k + 1 : Int)
  | some .noType | some .unsupported => f.line = some 1
  | some .noData => f.line = some 2
  | some _ => False

theorem located_unsupported (d : Dialect) : (unsupported d).Located := rfl

end Finding

namespace RuleTable

variable {t : RuleTable}

theorem movedBehind_strayLine (n : Nat) (l : Line) :
    (t.strayLine n l).movedBehind p = t.strayLine (if p < n then n + 1 else n) l := by
  by_cases h : p < n <;> simp [strayLine, Finding.movedBehind, Finding.rejected, h]

theorem movedBehind_conclude (seen : Seen) : (t.conclude seen).movedBehind p = t.conclude seen := by
  unfold conclude
  split
  · rfl
  · split <;> rfl

theorem seen_skip (hc : isMeaningful c = false) :
    t.seen (before ++ c :: after) = t.seen (before ++ after) := by
  rw [seen, seen, meaningful_skip hc]

/-- **The pass skips a line that does not count**, but numbers it. -/
theorem scan_skip (hc : isMeaningful c = false) :
    t.scan (before ++ c :: after) = (t.scan (before ++ after)).movedBehind before.length := by
  have hcs : t.isStray c = false := isStray_eq_false_of_not hc
  -- The first stray line stands before the new line, or behind it, or nowhere.
  rcases t.no_stray_or_first_stray before with hb | ⟨b₁, l, b₂, rfl, hb, hl⟩
  · rcases t.no_stray_or_first_stray after with ha | ⟨a₁, l, a₂, rfl, ha, hl⟩
    · have hn : ∀ m ∈ before ++ after, t.isStray m = false :=
        List.forall_mem_append.2 ⟨hb, ha⟩
      have hn' : ∀ m ∈ before ++ c :: after, t.isStray m = false :=
        List.forall_mem_append.2 ⟨hb, List.forall_mem_cons.2 ⟨hcs, ha⟩⟩
      rw [scan_of_no_stray hn, scan_of_no_stray hn', seen_skip hc, movedBehind_conclude]
    · have hn : ∀ m ∈ before ++ a₁, t.isStray m = false :=
        List.forall_mem_append.2 ⟨hb, ha⟩
      have hn' : ∀ m ∈ before ++ c :: a₁, t.isStray m = false :=
        List.forall_mem_append.2 ⟨hb, List.forall_mem_cons.2 ⟨hcs, ha⟩⟩
      have hlt : before.length < (before ++ a₁).length + 1 := by rw [List.length_append]; omega
      rw [← List.append_assoc, ← List.cons_append, ← List.append_assoc, scan_of_first_stray hn hl,
        scan_of_first_stray hn' hl, movedBehind_strayLine, if_pos hlt]
      congr 1
      simp only [List.length_append, List.length_cons]
      omega
  · rw [List.append_assoc, List.append_assoc, List.cons_append, List.cons_append,
      scan_of_first_stray hb hl, scan_of_first_stray hb hl, movedBehind_strayLine,
      if_neg (by simp)]

variable (t) in
theorem located_scan (ls : List Line) : (t.scan ls).Located := by
  rcases t.no_stray_or_first_stray ls with h | ⟨before, l, after, rfl, hb, hl⟩
  · rw [scan_of_no_stray h]
    unfold conclude
    split
    · rfl
    · split
      · rfl
      · exact ⟨rfl, rfl⟩
  · rw [scan_of_first_stray hb hl]
    exact ⟨before.length, rfl⟩

end RuleTable

/-! ## Answers behind a new line -/

/-- A diagnostic whose finding moved differs in the number of a stray line at most. -/
theorem Diagnostic.fields_of_movedBehind {d d' : Diagnostic}
    (h : d'.finding = d.finding.movedBehind p) :
    d'.isValid = d.isValid ∧ d'.error = d.error ∧ d'.kind = d.kind ∧ d'.hint = d.hint ∧
      d'.line.map (·.val) = if d.kind = some .badSyntax then
        d.line.map fun k => if p < k.val then k.val + 1 else k.val
      else d.line.map (·.val) := by
  have hv := (congrArg Finding.isValid h).trans Finding.isValid_movedBehind
  have he := (congrArg Finding.error h).trans Finding.error_movedBehind
  have hk := (congrArg Finding.kind h).trans Finding.kind_movedBehind
  have hh := (congrArg Finding.hint h).trans Finding.hint_movedBehind
  have hl := (congrArg Finding.line h).trans Finding.line_movedBehind
  refine ⟨hv, he, hk, hh, ?_⟩
  have hf : d.finding.kind = d.kind := rfl
  rw [hf] at hl
  by_cases hs : d.kind = some .badSyntax
  · rw [if_pos hs] at hl ⊢
    cases hd : d.line <;> cases hd' : d'.line <;> simp [finding, hd, hd'] at hl ⊢
    split at hl <;> split <;> omega
  · rw [if_neg hs] at hl ⊢
    rw [LineNumber.map_val_injective hl]

namespace Engine

variable {e : Engine}

/-- Every validator of the engine scans by a table. -/
def ScansTables (e : Engine) : Prop := ∀ v ∈ e.registry.entries, ∃ t, v = .ofTable t

theorem ScansTables.exists_table (he : e.ScansTables) {d : Dialect} {v : Validator}
    (hv : e.registry.find? d = some v) : ∃ t, v = .ofTable t :=
  he v (List.mem_of_find?_eq_some hv)

theorem entries_standard : standard.registry.entries = defaultValidators := rfl

theorem scansTables_standard : standard.ScansTables := by
  intro v hv
  rw [entries_standard, defaultValidators, List.mem_map] at hv
  obtain ⟨t, -, rfl⟩ := hv
  exact ⟨t, rfl⟩

/-- What an engine of tables finds can be reported: that it has no validator for the dialect, or what
    the pass by the table says. -/
theorem ScansTables.exists_examine (he : e.ScansTables) (d : Dialect) (ls : List Line) :
    ∃ f, f.Coherent ∧ (e.examine d ls).value = .ok f ∧
      (f = .unsupported d ∨ ∃ t, e.registry.find? d = some (.ofTable t) ∧ f = t.scan ls) := by
  cases hv : e.registry.find? d with
  | none => exact ⟨_, Finding.coherent_unsupported d, value_examine_of_none hv, .inl rfl⟩
  | some v =>
    obtain ⟨t, rfl⟩ := he.exists_table hv
    exact ⟨_, t.coherent_scan ls, value_examine_of_some hv, .inr ⟨t, rfl, rfl⟩⟩

/-- What an engine of tables finds moves behind a line that does not count. -/
theorem ScansTables.exists_examine_skip (he : e.ScansTables) (d : Dialect)
    (before after : List Line) (hc : isMeaningful c = false) : ∃ f, f.Coherent ∧ f.Located ∧
      (e.examine d (before ++ after)).value = .ok f ∧
      (f.movedBehind before.length).Coherent ∧
      (e.examine d (before ++ c :: after)).value = .ok (f.movedBehind before.length) := by
  cases hv : e.registry.find? d with
  | none =>
    have hf := Finding.coherent_unsupported d
    have hm : (Finding.unsupported d).movedBehind before.length = .unsupported d :=
      Finding.movedBehind_eq_self (by simp [Finding.unsupported, Finding.rejected])
    refine ⟨_, hf, Finding.located_unsupported d, value_examine_of_none hv, ?_, ?_⟩
    · rw [hm]
      exact hf
    · rw [hm]
      exact value_examine_of_none hv
  | some v =>
    obtain ⟨t, rfl⟩ := he.exists_table hv
    refine ⟨_, t.coherent_scan _, t.located_scan _, value_examine_of_some hv, ?_, ?_⟩
    · rw [← RuleTable.scan_skip hc]
      exact t.coherent_scan _
    · rw [← RuleTable.scan_skip hc]
      exact value_examine_of_some hv

variable {s : String}

/-- **The answer moves behind a line that does not count.** -/
theorem ScansTables.exists_validate_insertLine (he : e.ScansTables) (hs : s ≠ "")
    (hp : p ≤ (lines s).length) (hc : isMeaningful c = false) (hn : '\n' ∉ c) :
    ∃ d d', (e.validate (.text s)).value = .ok d ∧
      (e.validate (.text (insertLine s p c))).value = .ok d' ∧
      d'.finding = d.finding.movedBehind p ∧ d'.diagramType = d.diagramType ∧
      d'.elementCount = d.elementCount ∧ d.finding.Located := by
  have hls : lines s = (lines s).take p ++ (lines s).drop p := (List.take_append_drop ..).symm
  have hls' : lines (insertLine s p c) = (lines s).take p ++ c :: (lines s).drop p :=
    (lines_insertLine hp hn).trans (insertIdx_eq_take_append_cons_drop hp)
  have hlen : ((lines s).take p).length = p := List.length_take_of_le hp
  have hd : detect (lines (insertLine s p c)) = detect (lines s) := by
    rw [hls', detect_skip hc, ← hls]
  have hcount : elementCount (lines (insertLine s p c)) = elementCount (lines s) := by
    rw [hls', elementCount_skip hc, ← hls]
  rw [validate_text hs, validate_text (insertLine_ne_empty hp hn)]
  by_cases hu : detect (lines s) = .unknown
  · rw [validateText_of_unknown hu, validateText_of_unknown (hd.trans hu)]
    refine ⟨_, _, rfl, rfl, ?_, rfl, rfl, rfl⟩
    rw [Finding.movedBehind_eq_self]
    decide
  · rw [validateText_of_ne hu, validateText_of_ne (hd ▸ hu), hd]
    obtain ⟨f, hf, hfl, hx, hf', hx'⟩ :=
      he.exists_examine_skip (detect (lines s)) ((lines s).take p) ((lines s).drop p) hc
    rw [← hls] at hx
    rw [← hls', hlen] at hx'
    rw [hlen] at hf'
    obtain ⟨d, hok, hdf, hdt, hdc⟩ := exists_validateLines_of_coherent hx hf
    obtain ⟨d', hok', hdf', hdt', hdc'⟩ := exists_validateLines_of_coherent hx' hf'
    refine ⟨d, d', hok, hok', ?_, hdt'.trans hdt.symm, ?_, hdf ▸ hfl⟩
    · rw [hdf', hdf]
    · rw [hdc', hdc, hcount]

/-- **Lines that do not count are transparent.**  An engine whose validators all scan by tables
    answers for a text with a blank line or a comment more as for the text without it.  Only a stray
    line behind the new one has its number one higher. -/
theorem validate_insertLine (he : e.ScansTables) (hs : s ≠ "") (hp : p ≤ (lines s).length)
    (hc : isMeaningful c = false) (hn : '\n' ∉ c) :
    ∃ d d', (e.validate (.text s)).value = .ok d ∧
      (e.validate (.text (insertLine s p c))).value = .ok d' ∧
      d'.isValid = d.isValid ∧ d'.error = d.error ∧ d'.kind = d.kind ∧ d'.hint = d.hint ∧
      d'.diagramType = d.diagramType ∧ d'.elementCount = d.elementCount ∧
      d'.line.map (·.val) = (if d.kind = some .badSyntax then
        d.line.map fun k => if p < k.val then k.val + 1 else k.val
      else d.line.map (·.val)) ∧ d.finding.Located := by
  obtain ⟨d, d', hok, hok', hf, ht, hcount, hl⟩ := he.exists_validate_insertLine hs hp hc hn
  obtain ⟨hv, he, hk, hh, hline⟩ := Diagnostic.fields_of_movedBehind hf
  exact ⟨d, d', hok, hok', hv, he, hk, hh, ht, hcount, hline, hl⟩

/-- A comment ahead of the stray line moves it. -/
theorem validate_insertLine_comment :
    ∃ d d', (standard.validate (.text "graph TD\n???")).value = .ok d ∧
      (standard.validate (.text (insertLine "graph TD\n???" 1 "%% note".toList))).value = .ok d' ∧
      d'.error = d.error ∧ d.line.map (·.val) = some 2 ∧ d'.line.map (·.val) = some 3 := by
  obtain ⟨d, d', hok, hok', -, he, -, -, -, -, hl, -⟩ :=
    validate_insertLine (s := "graph TD\n???") (p := 1) (c := "%% note".toList)
      scansTables_standard (by decide) (by decide +kernel) (by decide +kernel) (by decide +kernel)
  have hd : (standard.validate (.text "graph TD\n???")).value = .ok
      ⟨.rejected ⟨"Invalid graph syntax: \"???\"", some .badSyntax, some ⟨2, by decide⟩,
        some "Check graph syntax. Valid formats: A[Text], A --> B, subgraph Title"⟩, "graph", 2⟩ := by
    rfl
  rw [hd] at hok
  injection hok with hok
  subst hok
  exact ⟨_, d', hd, hok', he, rfl, hl⟩

end Engine

end DiagramLint
