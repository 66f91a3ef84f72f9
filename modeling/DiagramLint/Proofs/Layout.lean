/-
  The layout of a text.

  Detection, counting and the pass see a line trimmed.  So blanks and byte order marks around the
  lines do not matter, nor how the lines are ended, to an engine that scans by tables.

  * `crlf s`: the text with a carriage return before every newline;
  * `surround before after s`: the text with something put around each line.

  `ScansTables.validate_eq_of_map_trim`: texts whose lines are the same, trimmed, have one answer.
-/
import Mathlib.Data.List.Forall2
import DiagramLint.Proofs.Transparency

namespace DiagramLint

open Text

variable {s : String} {ls : List Line}

/-! ## Trimmed lines -/

theorem isMeaningful_comp_trim : isMeaningful ∘ trim = isMeaningful := funext isMeaningful_trim

theorem detect_map_trim (ls : List Line) : detect (ls.map trim) = detect ls := by
  unfold detect detectAmong
  rw [List.find?_map, isMeaningful_comp_trim]
  cases ls.find? isMeaningful with
  | none => rfl
  | some l => simp

theorem elementCount_map_trim (ls : List Line) : elementCount (ls.map trim) = elementCount ls := by
  rw [elementCount, List.countP_map, isMeaningful_comp_trim, elementCount]

namespace RuleTable

variable (t : RuleTable)

theorem scanFrom_map_trim (n : Nat) (seen : Seen) (ls : List Line) :
    t.scanFrom n seen (ls.map trim) = t.scanFrom n seen ls :=
  apply_scanFrom_map (F := id) isMeaningful_trim (fun l _ _ => by rw [trim_trim])
    fun n l => by rw [trim_trim]

/-- **The pass sees the lines trimmed.** -/
theorem scan_map_trim (ls : List Line) : t.scan (ls.map trim) = t.scan ls :=
  t.scanFrom_map_trim 1 t.start ls

end RuleTable

namespace Engine

variable {e : Engine} {d : Dialect}

theorem ScansTables.examine_map_trim (he : e.ScansTables) :
    e.examine d (ls.map trim) = e.examine d ls := by
  unfold examine
  cases hv : e.registry.find? d with
  | none => rfl
  | some v =>
    obtain ⟨t, rfl⟩ := he.exists_table hv
    simp [Validator.ofTable, t.scan_map_trim]

theorem ScansTables.validateLines_map_trim (he : e.ScansTables) :
    e.validateLines d (ls.map trim) = e.validateLines d ls := by
  have ha : assemble d (ls.map trim) = assemble d ls := by
    unfold assemble
    rw [elementCount_map_trim]
  unfold validateLines
  rw [he.examine_map_trim, ha]

/-- **Texts whose lines are the same, trimmed, have one answer**, and the same events. -/
theorem ScansTables.validate_eq_of_map_trim (he : e.ScansTables) {s s' : String} (hs : s ≠ "")
    (hs' : s' ≠ "") (h : (lines s).map trim = (lines s').map trim) :
    e.validate (.text s) = e.validate (.text s') := by
  have hd : detect (lines s) = detect (lines s') := by
    rw [← detect_map_trim, h, detect_map_trim]
  by_cases hu : detect (lines s) = .unknown
  · rw [validate_text_of_unknown hu, validate_text_of_unknown (hd ▸ hu), if_neg hs, if_neg hs']
  · rw [validate_text_of_ne hu, validate_text_of_ne (hd ▸ hu), ← hd, ← he.validateLines_map_trim, h,
      he.validateLines_map_trim]

/-- An engine of tables has an answer for everything. -/
theorem ScansTables.exists_validate_eq_ok (he : e.ScansTables) (s : String) :
    ∃ x, (e.validate (.text s)).value = .ok x := by
  by_cases hu : detect (lines s) = .unknown
  · rw [validate_text_of_unknown hu]
    exact ⟨_, rfl⟩
  rw [validate_text_of_ne hu]
  obtain ⟨f, hc, hf, -⟩ := he.exists_examine (detect (lines s)) (lines s)
  obtain ⟨x, hx, -⟩ := exists_validateLines_of_coherent hf hc
  exact ⟨x, hx⟩

end Engine

/-! ## Other layouts of a text -/

namespace Text

/-- The characters of a text with a carriage return before every newline. -/
def withReturns (cs : List Char) : List Char :=
  cs.flatMap fun c => if c = '\n' then ['\r', '\n'] else [c]

/-- The text with a carriage return before every newline. -/
def crlf (s : String) : String := String.ofList (withReturns s.toList)

/-- The text with something put around each line, by the number of the line. -/
def surround (before after : Nat → Line) (s : String) : String :=
  unlines ((lines s).mapIdx fun i l => before i ++ l ++ after i)

theorem withReturns_cons (c : Char) (cs : List Char) :
    withReturns (c :: cs) = (if c = '\n' then ['\r', '\n'] else [c]) ++ withReturns cs := rfl

theorem forall₂_splitOn_withReturns : ∀ cs : List Char,
    List.Forall₂ (fun l m => m = l ∨ m = l ++ ['\r']) (cs.splitOn '\n')
      ((withReturns cs).splitOn '\n')
  | [] => List.forall₂_same.2 fun _ _ => .inl rfl
  | c :: cs => by
    have ih := forall₂_splitOn_withReturns cs
    rw [withReturns_cons]
    -- a newline opens a line in both texts, and anything else goes to the first line of both
    by_cases hc : c = '\n'
    · subst hc
      simpa [List.splitOn_cons_eq_if_modifyHead] using ih
    · obtain ⟨l, ls, hl⟩ := List.exists_cons_of_ne_nil (List.splitOn_ne_nil '\n' cs)
      obtain ⟨m, ms, hm⟩ := List.exists_cons_of_ne_nil (List.splitOn_ne_nil '\n' (withReturns cs))
      rw [hl, hm, List.forall₂_cons] at ih
      simp only [if_neg hc, List.singleton_append, List.splitOn_cons_eq_if_modifyHead, hl, hm,
        beq_iff_eq, List.modifyHead_cons, List.forall₂_cons]
      refine ⟨?_, ih.2⟩
      rcases ih.1 with rfl | rfl
      · exact .inl rfl
      · exact .inr rfl

theorem map_trim_eq_of_forall₂ {ls ms : List Line}
    (h : List.Forall₂ (fun l m => trim m = trim l) ls ms) : ms.map trim = ls.map trim := by
  induction h with
  | nil => rfl
  | cons hl _ ih => rw [List.map_cons, List.map_cons, hl, ih]

/-- A carriage return at the end of a line does not show when the line is trimmed. -/
theorem map_trim_lines_crlf (s : String) : (lines (crlf s)).map trim = (lines s).map trim := by
  refine map_trim_eq_of_forall₂ ?_
  rw [lines, lines, crlf, String.toList_ofList]
  refine (forall₂_splitOn_withReturns s.toList).imp fun l m h => ?_
  rcases h with rfl | rfl
  · rfl
  · exact trim_append_append (a := []) (by simp) (List.forall_mem_singleton.2 rfl) l

theorem crlf_ne_empty (hs : s ≠ "") : crlf s ≠ "" := by
  intro h
  have hc : withReturns s.toList = [] := String.ofList_eq_empty_iff.1 h
  cases hl : s.toList with
  | nil => exact hs (String.toList_eq_nil_iff.1 hl)
  | cons c cs =>
    rw [hl, withReturns_cons] at hc
    split at hc <;> cases hc

variable {before after : Nat → Line}

theorem lines_surround (h : ∀ i, '\n' ∉ before i ∧ '\n' ∉ after i) :
    lines (surround before after s) = (lines s).mapIdx fun i l => before i ++ l ++ after i := by
  refine lines_unlines ?_ ?_
  · simpa using lines_ne_nil s
  · intro m hm
    obtain ⟨i, hi, rfl⟩ := List.mem_mapIdx.1 hm
    have hl := newline_notMem_of_mem_lines (List.getElem_mem hi)
    simp only [List.mem_append, not_or]
    exact ⟨⟨(h i).1, hl⟩, (h i).2⟩

theorem map_trim_lines_surround (h : ∀ i, '\n' ∉ before i ∧ '\n' ∉ after i)
    (hb : ∀ i, ∀ c ∈ before i, isEdge c = true) (ha : ∀ i, ∀ c ∈ after i, isEdge c = true) :
    (lines (surround before after s)).map trim = (lines s).map trim := by
  rw [lines_surround h]
  refine List.ext_getElem (by simp) fun i h₁ h₂ => ?_
  simp only [List.getElem_map, List.getElem_mapIdx, trim_append_append (hb i) (ha i)]

theorem surround_ne_empty (hs : s ≠ "") (h : ∀ i, '\n' ∉ before i ∧ '\n' ∉ after i) :
    surround before after s ≠ "" := by
  intro he
  have hl := lines_surround (s := s) h
  have hnil : lines "" = [[]] := rfl
  rw [he, hnil] at hl
  -- only an empty line with nothing around it leaves no text
  obtain ⟨l, hls⟩ : ∃ l, lines s = [l] := by
    rw [← List.length_eq_one_iff, ← List.length_mapIdx, ← hl]
    rfl
  obtain ⟨-, hl', -⟩ : before 0 = [] ∧ l = [] ∧ after 0 = [] := by simpa [hls] using hl
  refine hs ?_
  rw [← unlines_lines s, hls, hl']
  rfl

end Text

namespace Engine

variable {e : Engine}

/-- **The layout of a text does not matter.**  An engine whose validators all scan by tables has an
    answer for every text, and the same one for two texts that have as many lines, each the same
    when it is trimmed.  So lines may be ended by a carriage return too, and blanks and byte order
    marks may stand around them. -/
theorem validate_layout (he : e.ScansTables) :
    (∀ s s' : String, s ≠ "" → s' ≠ "" → (lines s).map trim = (lines s').map trim →
      e.validate (.text s) = e.validate (.text s') ∧
        ∃ x, (e.validate (.text s)).value = .ok x) ∧
    (∀ s : String, s ≠ "" → e.validate (.text (crlf s)) = e.validate (.text s)) ∧
    ∀ (s : String) (before after : Nat → Line), s ≠ "" →
      (∀ i, ∀ c ∈ before i ++ after i, isEdge c = true ∧ c ≠ '\n') →
        e.validate (.text (surround before after s)) = e.validate (.text s) := by
  refine ⟨fun s s' hs hs' h => ?_, fun s hs => ?_, fun s before after hs h => ?_⟩
  · exact ⟨he.validate_eq_of_map_trim hs hs' h, he.exists_validate_eq_ok s⟩
  · exact he.validate_eq_of_map_trim (crlf_ne_empty hs) hs (map_trim_lines_crlf s)
  · have hn : ∀ i, '\n' ∉ before i ∧ '\n' ∉ after i := by
      intro i
      rw [← not_or, ← List.mem_append]
      exact fun hm => (h i _ hm).2 rfl
    refine he.validate_eq_of_map_trim (surround_ne_empty hs hn) hs ?_
    exact map_trim_lines_surround hn (fun i c hc => (h i c (List.mem_append_left _ hc)).1)
      fun i c hc => (h i c (List.mem_append_right _ hc)).1

/-- A stray line is named alike behind a byte order mark, with other blanks and with carriage
    returns. -/
theorem validate_layout_bom :
    standard.validate (.text "\uFEFFgraph TD\r\n\t???\r\n") =
      standard.validate (.text "graph TD\n   ???\n") ∧
    standard.validate (.text (crlf "graph TD\n???")) = standard.validate (.text "graph TD\n???") ∧
    standard.validate (.text (surround (fun _ => ['\uFEFF', ' ']) (fun _ => ['\t']) "graph TD\n???")) =
      standard.validate (.text "graph TD\n???") ∧
    ∃ x, (standard.validate (.text "\uFEFFgraph TD\r\n\t???\r\n")).value = .ok x := by
  obtain ⟨h, hcrlf, hsurround⟩ := validate_layout scansTables_standard
  obtain ⟨heq, hx⟩ := h "\uFEFFgraph TD\r\n\t???\r\n" "graph TD\n   ???\n" (by decide) (by decide)
    (by decide +kernel)
  have hedge : ∀ c ∈ ['\uFEFF', ' ', '\t'], isEdge c = true ∧ c ≠ '\n' :=
    List.forall_mem_cons.2 ⟨by decide, List.forall_mem_cons.2 ⟨by decide,
      List.forall_mem_singleton.2 (by decide)⟩⟩
  exact ⟨heq, hcrlf _ (by decide), hsurround _ _ _ (by decide) fun _ => hedge, hx⟩

end Engine

end DiagramLint
