/-
  Repairing a diagram.

  The standard engine names one stray line at a time.  Who deletes it and asks again is through after
  as many deletions as there are stray lines.

  * `Repair e s xs y`: a whole repair of the text `s`, with the answers `xs` that name a stray line,
    and the last answer `y`, which names none;
  * `Opens t s`: the text `s` opens with the declaration of the table `t`, and detection sees it;
  * `Diagnostic.Next x x'`: what the answers before and after one deletion have to do with each other.

  `Opens.next`: one deletion.  `Repair.isChain` and `Opens.exists_repair`: all of them.
-/
import Mathlib.Data.List.Chain
import DiagramLint.Proofs.Lines
import DiagramLint.Proofs.Outcome

namespace DiagramLint

open Text

/-- The line that the engine calls stray is deleted again and again, until it names none. -/
inductive Repair (e : Engine) : String → List Diagnostic → Diagnostic → Prop
  | done {s y} : (e.validate (.text s)).value = .ok y → y.kind ≠ some .badSyntax → Repair e s [] y
  | delete {s x k xs y} : (e.validate (.text s)).value = .ok x → x.kind = some .badSyntax →
      x.line = some k → Repair e (deleteLine s k.val) xs y → Repair e s (x :: xs) y

variable {t : RuleTable} {s : String} {before after : List Line} {l : Line} {x x' y : Diagnostic}
  {xs : List Diagnostic}

theorem Repair.unique {e : Engine} {xs' : List Diagnostic} {y' : Diagnostic}
    (h : Repair e s xs y) (h' : Repair e s xs' y') : xs' = xs ∧ y' = y := by
  induction h generalizing xs' y' with
  | done hy hk =>
    cases h' with
    | done hy' => exact ⟨rfl, Except.ok.inj (hy'.symm.trans hy)⟩
    | delete hx hk' =>
      obtain rfl := Except.ok.inj (hx.symm.trans hy)
      exact absurd hk' hk
  | delete hx hk hl _ ih =>
    cases h' with
    | done hy' hk' =>
      obtain rfl := Except.ok.inj (hy'.symm.trans hx)
      exact absurd hk hk'
    | delete hx' _ hl' h' =>
      obtain rfl := Except.ok.inj (hx'.symm.trans hx)
      obtain rfl := Option.some.inj (hl'.symm.trans hl)
      obtain ⟨rfl, rfl⟩ := ih h'
      exact ⟨rfl, rfl⟩

/-! ## Deleting a stray line -/

namespace RuleTable.IsDeclared

/-- The declaration stands before every stray line. -/
theorem of_stray (h : t.IsDeclared (before ++ l :: after)) (hl : t.isStray l = true) :
    t.IsDeclared before := by
  obtain ⟨m, hm, ha⟩ := h
  rw [List.find?_append] at hm
  cases hb : before.find? isMeaningful with
  | some m' =>
    rw [hb, Option.some_or] at hm
    obtain rfl := Option.some.inj hm
    exact ⟨_, hb, ha⟩
  | none =>
    have hlm : isMeaningful l = true := (isStray_iff.1 hl).1
    rw [hb, Option.none_or, List.find?_cons_of_pos hlm] at hm
    cases hm
    rw [isStray_eq_false_of_accepts List.mem_cons_self ha] at hl
    cases hl

theorem append (h : t.IsDeclared before) (ms : List Line) : t.IsDeclared (before ++ ms) := by
  obtain ⟨m, hm, ha⟩ := h
  exact ⟨m, by rw [List.find?_append, hm, Option.some_or], ha⟩

theorem detect_append (h : t.IsDeclared before) (ms : List Line) :
    detect (before ++ ms) = detect before :=
  detect_append_of_exists h.exists_isMeaningful ms

end RuleTable.IsDeclared

namespace Engine

/-- The text opens with the declaration of the table, and detection takes it for one. -/
structure Opens (t : RuleTable) (s : String) : Prop where
  table : Grammar.table? (detect (lines s)) = some t
  declared : t.IsDeclared (lines s)

theorem Opens.detect_eq (h : Opens t s) : detect (lines s) = t.dialect :=
  (Grammar.table?_eq_some_iff.1 h.table).2.symm

theorem exists_opens (h : detect (lines s) ≠ .unknown) : ∃ t, Opens t s := by
  obtain ⟨t, ht, hd⟩ := exists_isDeclared_of_detect h
  exact ⟨t, ht, hd⟩

namespace Opens

theorem lines_deleteLine (h : Opens t s) (hs : lines s = before ++ l :: after)
    (hl : t.isStray l = true) : lines (deleteLine s (before.length + 1)) = before ++ after := by
  refine Text.lines_deleteLine hs ?_
  obtain ⟨m, hm, -⟩ := (hs ▸ h.declared).of_stray hl
  intro hnil
  rw [(List.append_eq_nil_iff.1 hnil).1] at hm
  cases hm

theorem detect_deleteLine (h : Opens t s) (hs : lines s = before ++ l :: after)
    (hl : t.isStray l = true) :
    detect (lines (deleteLine s (before.length + 1))) = detect (lines s) := by
  have hb := (hs ▸ h.declared).of_stray hl
  rw [h.lines_deleteLine hs hl, hs, hb.detect_append, hb.detect_append]

theorem deleteLine (h : Opens t s) (hs : lines s = before ++ l :: after)
    (hl : t.isStray l = true) : Opens t (deleteLine s (before.length + 1)) where
  table := by rw [h.detect_deleteLine hs hl, h.table]
  declared := by
    rw [h.lines_deleteLine hs hl]
    exact ((hs ▸ h.declared).of_stray hl).append after

theorem exists_answer (h : Opens t s) : ∃ x, (standard.validate (.text s)).value = .ok x := by
  obtain ⟨x, hx, -⟩ := exists_standard_validate h.table
  exact ⟨x, hx⟩

theorem answer_of_no_stray (h : Opens t s) (hx : (standard.validate (.text s)).value = .ok x)
    (hn : ∀ l ∈ lines s, t.isStray l = false) :
    x.isValid = true ∧ x.kind = none ∨ t.dialect = .pie ∧ x.kind = some .noData := by
  obtain ⟨hf, -⟩ := of_standard_validate_eq_ok h.table hx
  rw [h.declared.scan_of_no_stray hn] at hf
  by_cases hr : (t.seen (lines s)).required = true
  · rw [if_pos hr] at hf
    exact .inl ⟨congrArg Finding.isValid hf, congrArg Finding.kind hf⟩
  · rw [if_neg hr] at hf
    refine .inr ⟨?_, congrArg Finding.kind hf⟩
    by_contra hd
    rw [required_seen_iff (Grammar.table?_eq_some_iff.1 h.table).1] at hr
    exact hr fun hp => absurd hp hd

theorem answer_of_stray (h : Opens t s) (hx : (standard.validate (.text s)).value = .ok x)
    (hs : lines s = before ++ l :: after) (hb : ∀ m ∈ before, t.isStray m = false)
    (hl : t.isStray l = true) :
    x.kind = some .badSyntax ∧ x.line = some ⟨before.length + 1, Nat.succ_pos _⟩ := by
  obtain ⟨hf, -⟩ := of_standard_validate_eq_ok h.table hx
  rw [hs, RuleTable.scan_of_first_stray hb hl] at hf
  refine ⟨congrArg Finding.kind hf, LineNumber.map_val_injective ?_⟩
  exact congrArg Finding.line hf

/-- An answer names a stray line only if there is one, and then the first. -/
theorem stray_of_answer (h : Opens t s) (hx : (standard.validate (.text s)).value = .ok x)
    (hk : x.kind = some .badSyntax) :
    ∃ before l after, lines s = before ++ l :: after ∧ (∀ m ∈ before, t.isStray m = false) ∧
      t.isStray l = true ∧ x.line = some ⟨before.length + 1, Nat.succ_pos _⟩ := by
  rcases t.no_stray_or_first_stray (lines s) with hn | ⟨before, l, after, hs, hb, hl⟩
  · have hx' := h.answer_of_no_stray hx hn
    rw [hk] at hx'
    rcases hx' with ⟨-, ⟨⟩⟩ | ⟨-, ⟨⟩⟩
  · exact ⟨before, l, after, hs, hb, hl, (h.answer_of_stray hx hs hb hl).2⟩

end Opens

end Engine

/-! ## From one answer to the next -/

/-- The answer after a deletion is for the same dialect, counts one line less, and names no line
    further up. -/
structure Diagnostic.Next (x x' : Diagnostic) : Prop where
  diagramType : x'.diagramType = x.diagramType
  elementCount : x.elementCount = x'.elementCount + 1
  line : x'.kind = some .badSyntax → ∀ k ∈ x.line, ∀ k' ∈ x'.line, k.val ≤ k'.val

/-- Where the first part holds no line of a kind, such a line comes behind it. -/
theorem length_le_of_append_eq {p : Line → Bool} {before' after' : List Line}
    (h : before ++ after = before' ++ l :: after') (hb : ∀ m ∈ before, p m = false)
    (hl : p l = true) : before.length ≤ before'.length := by
  rcases List.append_eq_append_iff.1 h with ⟨c, rfl, -⟩ | ⟨c, rfl, hc⟩
  · rw [List.length_append]
    exact Nat.le_add_right _ _
  · cases c with
    | nil => simp
    | cons d c =>
      injection hc with hd
      have hp := hb d (by simp)
      rw [← hd, hl] at hp
      cases hp

namespace Engine

/-- **One deletion.**  The text still opens with its declaration, it has one stray line less, and the
    next answer follows on the one before. -/
theorem Opens.next (h : Opens t s) (hx : (standard.validate (.text s)).value = .ok x)
    (hk : x.kind = some .badSyntax) {k : LineNumber} (hl : x.line = some k)
    (hx' : (standard.validate (.text (Text.deleteLine s k.val))).value = .ok x') :
    Opens t (Text.deleteLine s k.val) ∧ x.Next x' ∧
      (lines s).countP t.isStray = (lines (Text.deleteLine s k.val)).countP t.isStray + 1 := by
  obtain ⟨before, l, after, hs, hb, hstray, hxl⟩ := h.stray_of_answer hx hk
  obtain rfl := Option.some.inj (hxl.symm.trans hl)
  have hd := h.deleteLine hs hstray
  have hlines := h.lines_deleteLine hs hstray
  obtain ⟨-, htype, hcount⟩ := of_standard_validate_eq_ok h.table hx
  obtain ⟨-, htype', hcount'⟩ := of_standard_validate_eq_ok hd.table hx'
  refine ⟨hd, ⟨?_, ?_, ?_⟩, ?_⟩
  · rw [htype', htype, h.detect_deleteLine hs hstray]
  · have hm : isMeaningful l = true := (RuleTable.isStray_iff.1 hstray).1
    rw [hcount, hcount', hlines, hs, elementCount, elementCount, List.countP_append,
      List.countP_append, List.countP_cons_of_pos hm, Nat.add_assoc]
  · intro hk' i hi i' hi'
    obtain ⟨before', l', after', hs', -, hstray', hxl'⟩ := hd.stray_of_answer hx' hk'
    obtain rfl := Option.some.inj (hi.symm.trans hxl)
    obtain rfl := Option.some.inj (hi'.symm.trans hxl')
    exact Nat.succ_le_succ (length_le_of_append_eq (hlines.symm.trans hs') hb hstray')
  · rw [hlines, hs, List.countP_append, List.countP_append, List.countP_cons_of_pos hstray,
      Nat.add_assoc]

/-! ## All deletions -/

/-- A text is repaired with as many deletions as it has stray lines. -/
theorem Opens.exists_repair (h : Opens t s) : ∃ xs y, Repair standard s xs y ∧
    xs.length = (lines s).countP t.isStray := by
  obtain ⟨x, hx⟩ := h.exists_answer
  generalize hn : (lines s).countP t.isStray = n
  -- every deletion lowers the number of stray lines by one
  induction n generalizing s x with
  | zero =>
    have hn' : ∀ l ∈ lines s, t.isStray l = false := fun l hl =>
      Bool.eq_false_iff.2 (List.countP_eq_zero.1 hn l hl)
    refine ⟨[], x, .done hx ?_, rfl⟩
    rcases h.answer_of_no_stray hx hn' with ⟨-, hk⟩ | ⟨-, hk⟩ <;> rw [hk] <;> decide
  | succ n ih =>
    rcases t.no_stray_or_first_stray (lines s) with hno | ⟨before, l, after, hs, hb, hl⟩
    · rw [List.countP_eq_zero.2 fun l hl => Bool.eq_false_iff.1 (hno l hl)] at hn
      cases hn
    · obtain ⟨hk, hxl⟩ := h.answer_of_stray hx hs hb hl
      obtain ⟨x', hx'⟩ := (h.deleteLine hs hl).exists_answer
      obtain ⟨hd, -, hcount⟩ := h.next hx hk hxl hx'
      obtain ⟨xs, y, hr, hlen⟩ := ih hd x' hx' (Nat.succ.inj (hcount.symm.trans hn))
      exact ⟨x :: xs, y, .delete hx hk hxl hr, congrArg Nat.succ hlen⟩

end Engine

/-- The first answer of a repair is the answer to the text. -/
theorem Repair.head? {e : Engine} (h : Repair e s xs y) :
    ∃ x ∈ (xs ++ [y]).head?, (e.validate (.text s)).value = .ok x := by
  cases h with
  | done hy => exact ⟨_, rfl, hy⟩
  | delete hx => exact ⟨_, rfl, hx⟩

/-- Along a repair each answer follows on the one before. -/
theorem Repair.isChain (hr : Repair Engine.standard s xs y) (h : Engine.Opens t s) :
    List.IsChain Diagnostic.Next (xs ++ [y]) := by
  induction hr with
  | done => exact List.isChain_singleton _
  | @delete s x k xs y hx hk hl hr ih =>
    obtain ⟨x', hhead, hx'⟩ := hr.head?
    obtain ⟨hd, hnext, -⟩ := h.next hx hk hl hx'
    refine List.isChain_cons.2 ⟨?_, ih hd⟩
    intro y' hy'
    obtain rfl := Option.some.inj (hy'.symm.trans hhead)
    exact hnext

theorem Repair.kind_of_mem {e : Engine} (h : Repair e s xs y) (hx : x ∈ xs) :
    x.kind = some .badSyntax := by
  induction h with
  | done => cases hx
  | delete _ hk _ _ ih =>
    rcases List.mem_cons.1 hx with rfl | hx
    · exact hk
    · exact ih hx

/-- The dialect stays the same. -/
theorem Repair.diagramType (hr : Repair Engine.standard s xs y) (h : Engine.Opens t s)
    (hx : x ∈ xs ++ [y]) : x.diagramType = t.dialect.name := by
  induction hr with
  | @done s y hy =>
    obtain ⟨-, htype, -⟩ := Engine.of_standard_validate_eq_ok h.table hy
    rw [List.mem_singleton.1 hx, htype, h.detect_eq]
  | @delete s a k xs y ha hk hl hr ih =>
    obtain ⟨-, htype, -⟩ := Engine.of_standard_validate_eq_ok h.table ha
    rcases List.mem_cons.1 hx with rfl | hx
    · rw [htype, h.detect_eq]
    · obtain ⟨b, -, hb⟩ := hr.head?
      exact ih (h.next ha hk hl hb).1 hx

/-- A repair ends with a sound diagram, or with a pie chart without data. -/
theorem Repair.last (hr : Repair Engine.standard s xs y) (h : Engine.Opens t s) :
    y.isValid = true ∧ y.kind = none ∨ t.dialect = .pie ∧ y.kind = some .noData := by
  induction hr with
  | @done s y hy hk =>
    rcases t.no_stray_or_first_stray (lines s) with hn | ⟨before, l, after, hs, hb, hl⟩
    · exact h.answer_of_no_stray hy hn
    · exact absurd (h.answer_of_stray hy hs hb hl).1 hk
  | delete hx hk hl hr ih =>
    obtain ⟨b, -, hb⟩ := hr.head?
    exact ih (h.next hx hk hl hb).1

namespace Engine

/-- **A diagram is repaired by deleting the lines that are named.**  There is one repair, with as many
    deletions as there are stray lines.  All its answers name the dialect, and none says that there
    is no dialect or no text.  From one to the next the lines that count are one less, and the line
    that is named is not further up.  In the end the diagram is sound, or a pie chart without data. -/
theorem exists_unique_repair (hs : detect (lines s) ≠ .unknown) :
    ∃ t xs y, Grammar.table? (detect (lines s)) = some t ∧ Repair standard s xs y ∧
      (∀ xs' y', Repair standard s xs' y' → xs' = xs ∧ y' = y) ∧
      xs.length = (lines s).countP t.isStray ∧
      List.IsChain Diagnostic.Next (xs ++ [y]) ∧
      (∀ x ∈ xs ++ [y], x.diagramType = (detect (lines s)).name ∧
        x.kind ≠ some .noType ∧ x.kind ≠ some .inputError) ∧
      (y.isValid = true ∨ detect (lines s) = .pie ∧ y.kind = some .noData) := by
  obtain ⟨t, h⟩ := exists_opens hs
  obtain ⟨xs, y, hr, hlen⟩ := h.exists_repair
  have hlast := hr.last h
  refine ⟨t, xs, y, h.table, hr, fun _ _ => hr.unique, hlen, hr.isChain h, ?_, ?_⟩
  · intro x hx
    rw [h.detect_eq]
    refine ⟨hr.diagramType h hx, ?_⟩
    rcases List.mem_append.1 hx with hx | hx
    · rw [hr.kind_of_mem hx]
      decide
    · rw [List.mem_singleton.1 hx]
      rcases hlast with ⟨-, hk⟩ | ⟨-, hk⟩ <;> rw [hk] <;> decide
  · rw [h.detect_eq]
    exact hlast.imp_left And.left

/-- A pie chart with a comment, a blank line and two stray lines is without data after both. -/
theorem exists_unique_repair_pie : ∃ x x' y,
    Repair standard "%% shares\npie\n???\n\n!!!" [x, x'] y ∧ x.Next x' ∧ x'.Next y ∧
      y.diagramType = "pie" ∧ (y.isValid = true ∨ y.kind = some .noData) := by
  have hd : detect (lines "%% shares\npie\n???\n\n!!!") = .pie := by decide +kernel
  obtain ⟨t, xs, y, ht, hr, -, hlen, hc, htype, hy⟩ :=
    exists_unique_repair (s := "%% shares\npie\n???\n\n!!!") (by rw [hd]; decide)
  rw [hd] at ht htype hy
  cases ht
  have hcount : (lines "%% shares\npie\n???\n\n!!!").countP Grammar.pie.isStray = 2 := by
    decide +kernel
  obtain ⟨x, x', rfl⟩ := List.length_eq_two.1 (hlen.trans hcount)
  obtain ⟨hx, hx'⟩ := List.isChain_cons_cons.1 hc
  exact ⟨x, x', y, hr, hx, (List.isChain_cons_cons.1 hx').1, (htype y (by simp)).1,
    hy.imp_right And.right⟩

end Engine

end DiagramLint
