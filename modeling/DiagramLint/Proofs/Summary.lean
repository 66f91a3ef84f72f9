/-
  Diagnostics in words.

  The words for a diagnostic are one text, in which a line of the user may be quoted.  They still
  tell the parts apart: no error goes over a line, a line number ends where its digits end, and each
  piece of advice belongs to one kind of error and one dialect.

  * `withLine m n`: a message with the number of a line;
  * `withHint m h`: a message with advice on a line of its own;
  * `StandardAnswer d`: the diagnostic is of one of the forms in which the standard engine answers.

  `StandardAnswer.of_summary_eq`: answers in the same words are the same, but for the number of lines
  of an invalid diagram.
-/
import Mathlib.Data.List.Nodup
import DiagramLint.Proofs.Lines
import DiagramLint.Proofs.Outcome

namespace DiagramLint

open Text

/-! ## Parts of a text -/

namespace Text

/-- The first parts of a text that `p` holds of end where `p` first fails. -/
theorem append_cons_inj_of_forall {α : Type} {p : α → Bool} {v w a b : List α} {c d : α}
    (hv : ∀ x ∈ v, p x = true) (hw : ∀ x ∈ w, p x = true) (hc : p c = false) (hd : p d = false)
    (h : v ++ c :: a = w ++ d :: b) : v = w ∧ c = d ∧ a = b := by
  have hvw : v = w := by
    have ht := congrArg (List.takeWhile p) h
    rw [List.takeWhile_append_of_pos hv, List.takeWhile_append_of_pos hw] at ht
    simpa [hc, hd] using ht
  subst hvw
  simpa using h

theorem toDigits_inj {n n' : Nat} : Nat.toDigits 10 n = Nat.toDigits 10 n' ↔ n = n' := by
  constructor
  · intro h
    have hv := congrArg (fun ds => Nat.ofDigitChars 10 ds 0) h
    simpa using hv
  · rintro rfl
    rfl

theorem newline_notMem_toDigits (n : Nat) : '\n' ∉ Nat.toDigits 10 n := by
  intro hn
  exact absurd (Nat.isDigit_of_mem_toDigits (by omega) (by omega) hn) (by decide)

end Text

/-! ## Messages -/

/-- A message with the number of a line. -/
def withLine (m : String) (n : Nat) : String := m ++ " (line " ++ toString n ++ ")"

/-- A message with advice on a line of its own. -/
def withHint (m h : String) : String := m ++ "\n" ++ ("Hint: " ++ h)

variable {m m' h h' : String} {n n' : Nat}

theorem newline_mem_withLine_iff : '\n' ∈ (withLine m n).toList ↔ '\n' ∈ m.toList := by
  simp [withLine, Nat.toString_eq_repr, newline_notMem_toDigits]

theorem newline_mem_withHint : '\n' ∈ (withHint m h).toList := by
  simp [withHint]

/-- The number is what the digits at the end say, whatever stands before them. -/
theorem withLine_inj (he : withLine m n = withLine m' n') : m = m' ∧ n = n' := by
  have hr : ∀ (m : String) (n : Nat), (withLine m n).toList.reverse =
      ')' :: ((Nat.toDigits 10 n).reverse ++ ' ' :: ("enil(".toList ++ ' ' :: m.toList.reverse)) := by
    intro m n
    simp [withLine, Nat.toString_eq_repr]
  have hd : ∀ n : Nat, ∀ c ∈ (Nat.toDigits 10 n).reverse, c.isDigit = true := by
    intro n c hc
    exact Nat.isDigit_of_mem_toDigits (by omega) (by omega) (List.mem_reverse.1 hc)
  have hl := congrArg (fun s => s.toList.reverse) he
  simp only [hr, List.cons.injEq, true_and] at hl
  obtain ⟨hn, -, hm⟩ := append_cons_inj_of_forall (hd n) (hd n') (by decide) (by decide) hl
  simp only [List.append_cancel_left_eq, List.cons.injEq, true_and, List.reverse_inj,
    String.toList_inj, toDigits_inj] at hm hn
  exact ⟨hm, hn⟩

/-- The first line is the message, the second one the advice. -/
theorem withHint_inj (hm : '\n' ∉ m.toList) (hm' : '\n' ∉ m'.toList)
    (he : withHint m h = withHint m' h') : m = m' ∧ h = h' := by
  have hl : ∀ m h : String,
      (withHint m h).toList = m.toList ++ '\n' :: ("Hint: ".toList ++ h.toList) := by
    intro m h
    simp [withHint]
  have hne : ∀ m : String, '\n' ∉ m.toList → ∀ c ∈ m.toList, (c != '\n') = true := by
    intro m hm c hc
    rw [bne_iff_ne]
    rintro rfl
    exact hm hc
  have hs := congrArg String.toList he
  rw [hl, hl] at hs
  obtain ⟨hm, -, hh⟩ := append_cons_inj_of_forall (hne m hm) (hne m' hm') (by decide) (by decide) hs
  exact ⟨String.toList_inj.1 hm, String.toList_inj.1 (List.append_cancel_left hh)⟩

/-! ## The answers of the standard engine -/

/-- The advice that comes with an error, with the kind of the error and the name of the dialect. -/
def advised : List (String × ErrorKind × String) :=
  (ErrorKind.noType.advice, .noType, Dialect.unknown.name) ::
    ("Add data in format: \"Label\" : value", .noData, Dialect.pie.name) ::
    Grammar.tables.map fun t => (t.hint, .badSyntax, t.label)

/-- No two errors come with the same advice. -/
theorem nodup_advised : (advised.map (·.1)).Nodup := by decide +kernel

theorem eq_of_mem_advised {a b : ErrorKind × String} (ha : (h, a) ∈ advised)
    (hb : (h, b) ∈ advised) : a = b :=
  congrArg Prod.snd (List.inj_on_of_nodup_map nodup_advised ha hb rfl)

theorem kind_ne_of_mem_advised {a : ErrorKind × String} (ha : (h, a) ∈ advised) :
    a.1 ≠ .inputError := by
  have table : ∀ x ∈ advised, x.2.1 ≠ .inputError := by
    simp [advised]
  exact table _ ha

namespace Diagnostic

variable {d : Diagnostic} {line : LineNumber} {k : Nat}

/-- A line of the text can be written. -/
theorem hasUnwritableLine_of_le (hl : d.line = some line) (h : line.val ≤ k) :
    d.hasUnwritableLine k = false := by
  simp [hasUnwritableLine, hl, Nat.not_lt.2 h]

theorem hasUnwritableLine_of_small (hl : d.line = some line) (h : isUnwritable line.val = false) :
    d.hasUnwritableLine k = false := by
  simp [hasUnwritableLine, hl, h]

end Diagnostic

/-- The forms in which the standard engine answers. -/
inductive StandardAnswer : Diagnostic → Prop
  | noInput : StandardAnswer .noInput
  | accepted {d : Dialect} {n} : StandardAnswer ⟨.accepted, d.name, n⟩
  | error {m kind line hint dialect n} : '\n' ∉ m.toList → (hint, kind, dialect) ∈ advised →
      StandardAnswer ⟨.rejected ⟨m, some kind, some line, some hint⟩, dialect, n⟩

/-- The names of the dialects consist of letters. -/
theorem isAlpha_of_mem_name (d : Dialect) {c : Char} (hc : c ∈ d.name.toList) :
    c.isAlpha = true := by
  have hall : d.name.toList.all Char.isAlpha = true := by cases d <;> decide
  exact List.all_eq_true.1 hall c hc

theorem newline_notMem_name (d : Dialect) : '\n' ∉ d.name.toList := by
  intro hc
  exact absurd (isAlpha_of_mem_name d hc) (by decide)

/-- The standard engine answers in one of these forms, and a line that it tells is small, or one of
    the text. -/
theorem exists_standardAnswer (c : Submission) : ∃ d, (Engine.standard.validate c).value = .ok d ∧
    StandardAnswer d ∧ d.hasUnwritableLine c.lineCount = false := by
  cases c with
  | notText => exact ⟨_, rfl, .noInput, rfl⟩
  | text s =>
    by_cases hs : s = ""
    · subst hs
      exact ⟨_, rfl, .noInput, rfl⟩
    obtain ⟨hu, hd⟩ := Engine.standard_outcome hs
    by_cases hdet : detect (lines s) = .unknown
    · exact ⟨_, hu hdet, .error (by decide) (.head _),
        Diagnostic.hasUnwritableLine_of_small rfl (by decide)⟩
    obtain ⟨t, ⟨v, dialect, n⟩, ht, hx, htype, -, -, o, ho, -⟩ := hd hdet
    refine ⟨_, hx, ?_⟩
    obtain ⟨hmem, hlabel⟩ := Grammar.table?_eq_some_iff.1 ht
    rw [← hlabel] at htype
    obtain rfl : dialect = t.label := htype
    cases o with
    | stray =>
      obtain ⟨hlt, -, hv⟩ := ho
      obtain rfl : v = _ := hv
      refine ⟨.error ?_ (List.mem_cons_of_mem _ (List.mem_cons_of_mem _ (List.mem_map_of_mem hmem))),
        Diagnostic.hasUnwritableLine_of_le rfl hlt⟩
      have hl := newline_notMem_of_mem_lines (List.getElem_mem hlt)
      have hq : '\n' ∉ trim (lines s)[(lines s).findIdx t.isStray] := mt (mem_of_mem_strip isEdge) hl
      have hn := newline_notMem_name t.dialect
      simpa [RuleTable.label, hn] using hq
    | noData =>
      obtain ⟨-, hpie, -, hv⟩ := ho
      obtain rfl : v = _ := hv
      have hl : t.label = Dialect.pie.name := congrArg Dialect.name hpie
      rw [hl]
      exact ⟨.error (by decide) (.tail _ (.head _)),
        Diagnostic.hasUnwritableLine_of_small rfl (by decide)⟩
    | valid =>
      obtain ⟨-, -, hv⟩ := ho
      obtain rfl : v = _ := hv
      exact ⟨.accepted, rfl⟩

theorem standardAnswer_of_eq_ok {c : Submission} {d : Diagnostic}
    (h : (Engine.standard.validate c).value = .ok d) : StandardAnswer d := by
  obtain ⟨d', h', hs, -⟩ := exists_standardAnswer c
  obtain rfl := Except.ok.inj (h.symm.trans h')
  exact hs

/-! ## Answers in words -/

/-- There is a text, and an error in it. -/
def Diagnostic.HasError (d : Diagnostic) : Prop := d.isValid = false ∧ d.kind ≠ some .inputError

theorem not_hasError_noInput : ¬ Diagnostic.noInput.HasError := fun h => h.2 rfl

theorem not_hasError_accepted {dialect : String} : ¬ Diagnostic.HasError ⟨.accepted, dialect, n⟩ :=
  fun h => Bool.noConfusion h.1

namespace StandardAnswer

variable {d d' : Diagnostic}

theorem summary_accepted (e : Dialect) (n : Nat) : (Diagnostic.summary ⟨.accepted, e.name, n⟩).toList =
    "Valid ".toList ++ (e.name.toList ++
      ' ' :: ("diagram (".toList ++ (Nat.toDigits 10 n ++ " elements)".toList))) := by
  simp [Diagnostic.summary, Nat.toString_eq_repr]

theorem summary_error {m hint dialect : String} {kind : ErrorKind} {line : LineNumber} {n : Nat}
    (ha : (hint, kind, dialect) ∈ advised) :
    Diagnostic.summary ⟨.rejected ⟨m, some kind, some line, some hint⟩, dialect, n⟩ =
      withHint (withLine m line.val) hint := by
  have hne : hint.isEmpty = false := by
    have table : advised.all (·.1 != "") = true := by decide +kernel
    simpa using List.all_eq_true.1 table _ ha
  rw [← String.toList_inj]
  simp [Diagnostic.summary, withHint, withLine, hne]

theorem hasError_error {m hint dialect : String} {kind : ErrorKind} {line : LineNumber} {n : Nat}
    (ha : (hint, kind, dialect) ∈ advised) :
    Diagnostic.HasError ⟨.rejected ⟨m, some kind, some line, some hint⟩, dialect, n⟩ := by
  have hk := kind_ne_of_mem_advised ha
  simpa [Diagnostic.HasError, Diagnostic.isValid, Diagnostic.kind, Verdict.problem?] using hk

/-- The words for an answer go over a line exactly when there is an error in the text. -/
theorem newline_mem_summary_iff (h : StandardAnswer d) : '\n' ∈ d.summary.toList ↔ d.HasError := by
  cases h with
  | noInput =>
    have hn : '\n' ∉ Diagnostic.noInput.summary.toList := by decide
    simp [hn, not_hasError_noInput]
  | @accepted e n =>
    rw [summary_accepted]
    simp [newline_notMem_name, newline_notMem_toDigits, not_hasError_accepted]
  | error hm ha =>
    rw [summary_error ha]
    simp [newline_mem_withHint, hasError_error ha]

theorem accepted_inj {e e' : Dialect} {n n' : Nat} (he : Diagnostic.summary ⟨.accepted, e.name, n⟩ =
    Diagnostic.summary ⟨.accepted, e'.name, n'⟩) : e.name = e'.name ∧ n = n' := by
  have halpha : ∀ e : Dialect, ∀ c ∈ e.name.toList, c.isAlpha = true :=
    fun e _ => isAlpha_of_mem_name e
  have hs := congrArg String.toList he
  rw [summary_accepted, summary_accepted] at hs
  obtain ⟨hname, -, hn⟩ := append_cons_inj_of_forall (halpha e) (halpha e') (by decide) (by decide)
    (List.append_cancel_left hs)
  have hdigits := List.append_cancel_right (List.append_cancel_left hn)
  exact ⟨String.toList_inj.1 hname, toDigits_inj.1 hdigits⟩

theorem error_inj {m m' hint hint' dialect dialect' : String} {kind kind' : ErrorKind}
    {line line' : LineNumber} {n n' : Nat} (hm : '\n' ∉ m.toList) (hm' : '\n' ∉ m'.toList)
    (ha : (hint, kind, dialect) ∈ advised) (ha' : (hint', kind', dialect') ∈ advised)
    (he : Diagnostic.summary ⟨.rejected ⟨m, some kind, some line, some hint⟩, dialect, n⟩ =
      Diagnostic.summary ⟨.rejected ⟨m', some kind', some line', some hint'⟩, dialect', n'⟩) :
    m = m' ∧ kind = kind' ∧ line = line' ∧ hint = hint' ∧ dialect = dialect' := by
  rw [summary_error ha, summary_error ha'] at he
  obtain ⟨hfirst, rfl⟩ := withHint_inj (mt newline_mem_withLine_iff.1 hm)
    (mt newline_mem_withLine_iff.1 hm') he
  obtain ⟨rfl, hline⟩ := withLine_inj hfirst
  obtain ⟨rfl, rfl⟩ := Prod.mk.inj (eq_of_mem_advised ha ha')
  exact ⟨rfl, rfl, Subtype.ext hline, rfl, rfl⟩

theorem summary_noInput_ne_accepted (e : Dialect) (n : Nat) :
    Diagnostic.noInput.summary ≠ Diagnostic.summary ⟨.accepted, e.name, n⟩ := by
  intro he
  have hs := congrArg String.toList he
  rw [summary_accepted] at hs
  have hfirst : Diagnostic.noInput.summary.toList.head? = some 'D' := by decide
  rw [hs] at hfirst
  cases hfirst

/-- **Answers in the same words are the same**, but for the number of lines of an invalid diagram. -/
theorem of_summary_eq (h : StandardAnswer d) (h' : StandardAnswer d') (he : d.summary = d'.summary) :
    d.verdict = d'.verdict ∧ d.diagramType = d'.diagramType ∧
      (d.isValid = true → d.elementCount = d'.elementCount) := by
  have herror : d.HasError ↔ d'.HasError := by
    rw [← h.newline_mem_summary_iff, he, h'.newline_mem_summary_iff]
  cases h with
  | noInput =>
    cases h' with
    | noInput => exact ⟨rfl, rfl, fun _ => rfl⟩
    | accepted => exact absurd he (summary_noInput_ne_accepted _ _)
    | error _ ha => exact absurd (herror.2 (hasError_error ha)) not_hasError_noInput
  | accepted =>
    cases h' with
    | noInput => exact absurd he.symm (summary_noInput_ne_accepted _ _)
    | accepted =>
      obtain ⟨hname, hn⟩ := accepted_inj he
      exact ⟨rfl, hname, fun _ => hn⟩
    | error _ ha => exact absurd (herror.2 (hasError_error ha)) not_hasError_accepted
  | error hm ha =>
    cases h' with
    | noInput => exact absurd (herror.1 (hasError_error ha)) not_hasError_noInput
    | accepted => exact absurd (herror.1 (hasError_error ha)) not_hasError_accepted
    | error hm' ha' =>
      obtain ⟨rfl, rfl, rfl, rfl, rfl⟩ := error_inj hm hm' ha ha' he
      exact ⟨rfl, rfl, fun hv => by cases hv⟩

/-- An error is told on one line, with its number, and the advice on the next one. -/
theorem summary_of_hasError (h : StandardAnswer d) (he : d.HasError) : ∃ m k hint,
    d.error = some m ∧ d.line = some k ∧ d.hint = some hint ∧
      '\n' ∉ (withLine m k.val).toList ∧ d.summary = withHint (withLine m k.val) hint := by
  cases h with
  | noInput => exact absurd he not_hasError_noInput
  | accepted => exact absurd he not_hasError_accepted
  | error hm ha =>
    exact ⟨_, _, _, rfl, rfl, rfl, mt newline_mem_withLine_iff.1 hm, summary_error ha⟩

end StandardAnswer

/-! ## Texts that are being edited -/

/-- **The message for an edit tells its diagnostic.**  It has a second line exactly when there is an
    error in the text; the first line is then the error with its line, and the second one the advice.
    Edits that are answered by the same message have the same diagnostic, but for the number of lines
    of an invalid diagram. -/
theorem Engine.realtime_message_determines :
    (∀ c change line a, (checkEdit change line).toExcept = .ok a → ∃ d r,
      (standard.validate c).value = .ok d ∧
      (standard.validateRealtime c change line).value = .ok r ∧
      r.toDiagnostic = d ∧ r.change = a.1 ∧ r.lineNumber = a.2 ∧
      ('\n' ∈ r.message.toList ↔ r.isValid = false ∧ r.kind ≠ some .inputError) ∧
      ('\n' ∈ r.message.toList → ∃ error k hint, r.error = some error ∧ r.line = some k ∧
        r.hint = some hint ∧ '\n' ∉ (error ++ " (line " ++ toString k.val ++ ")").toList ∧
        r.message = error ++ " (line " ++ toString k.val ++ ")" ++ "\n" ++ ("Hint: " ++ hint))) ∧
    ∀ c c' change change' line line' r r',
      (standard.validateRealtime c change line).value = .ok r →
      (standard.validateRealtime c' change' line').value = .ok r' → r.message = r'.message →
      r.isValid = r'.isValid ∧ r.error = r'.error ∧ r.kind = r'.kind ∧ r.line = r'.line ∧
        r.hint = r'.hint ∧ r.diagramType = r'.diagramType ∧
        (r.isValid = true → r.elementCount = r'.elementCount) := by
  constructor
  · intro c change line a ha
    obtain ⟨d, hd, hs, hw⟩ := exists_standardAnswer c
    refine ⟨d, _, hd, value_validateRealtime_eq_ok_iff.2 ⟨d, a, hd, hw, ha, rfl⟩, rfl, rfl, rfl,
      hs.newline_mem_summary_iff, ?_⟩
    intro hn
    exact hs.summary_of_hasError (hs.newline_mem_summary_iff.1 hn)
  · intro c c' change change' line line' r r' hr hr' he
    obtain ⟨d, a, hd, -, -, rfl⟩ := value_validateRealtime_eq_ok_iff.1 hr
    obtain ⟨d', a', hd', -, -, rfl⟩ := value_validateRealtime_eq_ok_iff.1 hr'
    obtain ⟨hv, ht, hn⟩ := (standardAnswer_of_eq_ok hd).of_summary_eq
      (standardAnswer_of_eq_ok hd') he
    exact ⟨congrArg (·.problem?.isNone) hv, congrArg (·.problem?.map (·.message)) hv,
      congrArg (·.problem?.bind (·.kind)) hv, congrArg (·.problem?.bind (·.line)) hv,
      congrArg (·.problem?.bind (·.hint)) hv, ht, hn⟩

/-- What a line of the user says of lines is quoted, and not taken for its number. -/
theorem Engine.realtime_message_determines_quoted :
    let c := Submission.text "graph\n; (line 7)"
    let c' := Submission.text "Graph TD\r\n\t; (line 7)\n"
    let m := "Invalid graph syntax: \"; (line 7)\" (line 2)\nHint: " ++ Grammar.flowchart.hint
    (checkEdit (.str "full") .null).toExcept = .ok (.full, none) ∧
    ∃ r r', (standard.validateRealtime c (.str "full") .null).value = .ok r ∧
      (standard.validateRealtime c' (.str "add") (.num (.int 3))).value = .ok r' ∧
      r.message = m ∧ r'.message = m ∧ r.error = r'.error ∧ r.line = r'.line := by
  intro c c' m
  have hcheck : (checkEdit (.str "full") .null).toExcept = .ok (.full, none) := rfl
  have hcheck' : (checkEdit (.str "add") (.num (.int 3))).toExcept = .ok (.add, some 3) := rfl
  obtain ⟨-, r, -, hr, -⟩ := realtime_message_determines.1 c _ _ _ hcheck
  obtain ⟨-, r', -, hr', -⟩ := realtime_message_determines.1 c' _ _ _ hcheck'
  have hm : (standard.validateRealtime c (.str "full") .null).value.toOption.map (·.message) =
      some m := by decide +kernel
  have hm' : (standard.validateRealtime c' (.str "add") (.num (.int 3))).value.toOption.map
      (·.message) = some m := by decide +kernel
  rw [hr] at hm
  rw [hr'] at hm'
  replace hm : r.message = m := Option.some.inj hm
  replace hm' : r'.message = m := Option.some.inj hm'
  obtain ⟨-, herror, -, hline, -⟩ := realtime_message_determines.2 c c' _ _ _ _ r r' hr hr'
    (hm.trans hm'.symm)
  exact ⟨hcheck, r, r', hr, hr', hm, hm', herror, hline⟩

end DiagramLint
