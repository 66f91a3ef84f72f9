/-
  Texts made of lines.

  * `unlines ls`: the text whose lines are `ls`;
  * `insertLine s p l`: the text with the line `l` put in behind its first `p` lines;
  * `deleteLine s k`: the text without its line number `k`.

  `unlines_lines` and `lines_unlines`: a text is its lines, and every list of lines without newlines
  is the lines of a text, the empty list apart.
-/
import DiagramLint.Text.Blank

namespace DiagramLint.Text

/-! ## Lines and their text -/

/-- The text with the given lines. -/
def unlines (ls : List Line) : String := String.ofList (['\n'].intercalate ls)

/-- The text with a line more, behind its first `p` lines. -/
def insertLine (s : String) (p : Nat) (l : Line) : String := unlines ((lines s).insertIdx p l)

/-- The text without one of its lines, which are counted from one. -/
def deleteLine (s : String) (k : Nat) : String := unlines ((lines s).eraseIdx (k - 1))

variable {s : String} {l : Line} {ls : List Line} {p : Nat}

theorem lines_ne_nil (s : String) : lines s ≠ [] := List.splitOn_ne_nil '\n' s.toList

theorem notMem_of_mem_splitOn {c : Char} {cs : List Char} (h : l ∈ cs.splitOn c) : c ∉ l := by
  induction cs generalizing l with
  | nil =>
    have hl : l = [] := by simpa [List.splitOn_eq_singleton (List.not_mem_nil (a := c))] using h
    rw [hl]
    exact List.not_mem_nil
  | cons x xs ih =>
    rw [List.splitOn_cons_eq_if_modifyHead] at h
    split at h
    · rcases List.mem_cons.1 h with rfl | h
      · exact List.not_mem_nil
      · exact ih h
    · next hx =>
      obtain ⟨head, tail, ht⟩ := List.exists_cons_of_ne_nil (List.splitOn_ne_nil c xs)
      rw [ht] at ih h
      rcases List.mem_cons.1 h with rfl | h
      · rw [List.mem_cons, not_or]
        exact ⟨fun e => hx (beq_iff_eq.2 e.symm), ih List.mem_cons_self⟩
      · exact ih (List.mem_cons_of_mem _ h)

theorem newline_notMem_of_mem_lines (h : l ∈ lines s) : '\n' ∉ l := notMem_of_mem_splitOn h

/-- A text is made of its lines. -/
theorem unlines_lines (s : String) : unlines (lines s) = s := by
  rw [unlines, lines, List.intercalate_splitOn, String.ofList_toList]

/-- Lines are found again in their text. -/
theorem lines_unlines (hne : ls ≠ []) (h : ∀ l ∈ ls, '\n' ∉ l) : lines (unlines ls) = ls := by
  rw [unlines, lines, String.toList_ofList, List.splitOn_intercalate '\n' h hne]

/-- A text behind another one, on a line of its own, brings its lines. -/
theorem lines_append_newline (s t : String) : lines (s ++ "\n" ++ t) = lines s ++ lines t := by
  have hs : (s ++ "\n" ++ t).toList = s.toList ++ '\n' :: t.toList := by
    rw [String.toList_append, String.toList_append, List.append_assoc]
    rfl
  simp only [lines, hs, List.splitOn_eq_splitOnP]
  exact List.splitOnP_append_cons _ _ (beq_self_eq_true '\n')

/-! ## One line more -/

theorem lines_insertLine (hp : p ≤ (lines s).length) (hl : '\n' ∉ l) :
    lines (insertLine s p l) = (lines s).insertIdx p l := by
  refine lines_unlines ?_ ?_
  · rw [← List.length_pos_iff, List.length_insertIdx_of_le_length hp]
    exact Nat.succ_pos _
  · intro m hm
    rcases (List.mem_insertIdx hp).1 hm with rfl | hm
    · exact hl
    · exact newline_notMem_of_mem_lines hm

theorem insertLine_ne_empty (hp : p ≤ (lines s).length) (hl : '\n' ∉ l) :
    insertLine s p l ≠ "" := by
  intro h
  have hlen : (lines (insertLine s p l)).length = 1 := by rw [h]; rfl
  rw [lines_insertLine hp hl, List.length_insertIdx_of_le_length hp] at hlen
  have := List.length_pos_iff.2 (lines_ne_nil s)
  omega

/-! ## One line less -/

theorem lines_deleteLine {before after : List Line} (hs : lines s = before ++ l :: after)
    (hne : before ++ after ≠ []) : lines (deleteLine s (before.length + 1)) = before ++ after := by
  have herase : (lines s).eraseIdx before.length = before ++ after := by
    rw [hs, List.eraseIdx_append_of_length_le (Nat.le_refl _), Nat.sub_self, List.eraseIdx_zero,
      List.tail_cons]
  rw [deleteLine, Nat.add_sub_cancel, herase]
  refine lines_unlines hne fun m hm => newline_notMem_of_mem_lines (s := s) ?_
  rw [hs, List.mem_append, List.mem_cons]
  exact (List.mem_append.1 hm).imp_right .inr

end DiagramLint.Text
