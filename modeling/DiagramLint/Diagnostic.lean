/-
  Diagnostics: the answers of the library for a diagram.

  * `Diagnostic`: a verdict with the name of the dialect and the number of lines that count;
  * `BatchDiagnostic` and `RealtimeDiagnostic`: diagnostics with the place in a batch, or with the
    edit that they answer;
  * `Diagnostic.finding`: the parts of the verdict, in the form of a finding;
  * `Diagnostic.ofFinding`: the diagnostic for a finding, if its parts go together.

  `Diagnostic.coherent_finding`: the parts of a verdict always go together.
  `Diagnostic.ofFinding_eq_ok_iff`: a diagnostic is made exactly of a coherent finding, and carries
  all of it.
-/
import DiagramLint.Dialect
import DiagramLint.Finding

namespace DiagramLint

/-! ## Line numbers -/

/-- The number of a line, counted from one. -/
abbrev LineNumber := { n : Nat // 0 < n }

/-- The line number that a number is; zero is none. -/
def LineNumber.ofNat? (n : Nat) : Option LineNumber :=
  if h : 0 < n then some ⟨n, h⟩ else none

/-- The line number that a number is; only positive numbers are. -/
def LineNumber.ofInt? (n : Int) : Option LineNumber := LineNumber.ofNat? n.toNat

theorem LineNumber.map_ofInt? {l : Option Int} (h : ∀ n ∈ l, 1 ≤ n) :
    ((l.bind ofInt?).map fun n => (n.val : Int)) = l := by
  cases l with
  | none => rfl
  | some n =>
    have := h n rfl
    have hn : 0 < n.toNat := by omega
    simp only [Option.bind_some, ofInt?, ofNat?, dif_pos hn, Option.map_some]
    congr 1
    omega

theorem LineNumber.map_val_injective {a b : Option LineNumber}
    (h : (a.map fun n => (n.val : Int)) = b.map fun n => (n.val : Int)) : a = b := by
  cases a with
  | none =>
    cases b with
    | none => rfl
    | some => cases h
  | some a =>
    cases b with
    | none => cases h
    | some b =>
      have h' : (a.val : Int) = b.val := Option.some.inj h
      exact congrArg some (Subtype.ext (by omega))

/-! ## Verdicts -/

/-- What is wrong with a diagram. -/
structure Problem where
  message : String
  kind : Option ErrorKind := none
  line : Option LineNumber := none
  hint : Option String := none
  deriving Repr, DecidableEq

/-- A diagram is accepted, or there is a problem. -/
inductive Verdict where
  | accepted
  | rejected (p : Problem)
  deriving Repr, DecidableEq

/-- The problem of a verdict. -/
def Verdict.problem? : Verdict → Option Problem
  | .accepted => none
  | .rejected p => some p

/-- The answer for a diagram. -/
structure Diagnostic where
  verdict : Verdict
  /-- The name of the dialect. -/
  diagramType : String
  /-- The number of lines that count. -/
  elementCount : Nat
  deriving Repr, DecidableEq

namespace Diagnostic

variable (d : Diagnostic)

/-- The diagram is accepted. -/
def isValid : Bool := d.verdict.problem?.isNone

/-- The message of the problem. -/
def error : Option String := d.verdict.problem?.map (·.message)

/-- The kind of the problem. -/
def kind : Option ErrorKind := d.verdict.problem?.bind (·.kind)

/-- The line of the problem. -/
def line : Option LineNumber := d.verdict.problem?.bind (·.line)

/-- The advice for the problem. -/
def hint : Option String := d.verdict.problem?.bind (·.hint)

/-- The parts of the verdict. -/
def finding : Finding where
  isValid := d.isValid
  error := d.error
  kind := d.kind
  line := d.line.map fun n => (n.val : Int)
  hint := d.hint

theorem coherent_finding : d.finding.Coherent := by
  obtain ⟨v, dialect, count⟩ := d
  cases v with
  | accepted => exact Finding.coherent_accepted
  | rejected p =>
    refine ⟨?_, ?_, ?_⟩
    · intro n hn
      simp only [finding, line, Verdict.problem?, Option.bind_some, Option.mem_def,
        Option.map_eq_some_iff] at hn
      obtain ⟨m, -, rfl⟩ := hn
      have := m.property
      omega
    · intro h
      simp [finding, isValid, Verdict.problem?] at h
    · intro _
      simp [finding, error, Verdict.problem?]

/-- A diagnostic is determined by the parts of its verdict, the dialect and the count. -/
theorem ext_finding {d e : Diagnostic} (hf : d.finding = e.finding)
    (ht : d.diagramType = e.diagramType) (hc : d.elementCount = e.elementCount) : d = e := by
  obtain ⟨v, dialect, count⟩ := d
  obtain ⟨w, dialect', count'⟩ := e
  simp only at ht hc
  subst ht hc
  simp only [finding, Finding.mk.injEq] at hf
  obtain ⟨hv, he, hk, hl, hh⟩ := hf
  cases v with
  | accepted =>
    cases w with
    | accepted => rfl
    | rejected => simp [isValid, Verdict.problem?] at hv
  | rejected p =>
    cases w with
    | accepted => simp [isValid, Verdict.problem?] at hv
    | rejected q =>
      obtain ⟨pm, pk, pl, ph⟩ := p
      obtain ⟨qm, qk, ql, qh⟩ := q
      simp only [error, kind, line, hint, Verdict.problem?, Option.map_some, Option.bind_some,
        Option.some.injEq] at he hk hl hh
      have hl' := LineNumber.map_val_injective hl
      subst he hk hl' hh
      rfl

end Diagnostic

/-! ## From findings to diagnostics -/

/-- Why the parts of a finding do not go together.  A finding without its error, or with one too
    many, is named by the dialect and the count that it would have been reported with. -/
inductive Incoherence where
  | lineTooSmall (line : Int)
  | validWithError (dialect : Dialect) (count : Nat)
  | invalidWithoutError (dialect : Dialect) (count : Nat)
  deriving Repr, DecidableEq

namespace Diagnostic

/-- The diagnostic for a finding.  The line is checked first. -/
def ofFinding (dialect : Dialect) (count : Nat) (f : Finding) : Except Incoherence Diagnostic :=
  match f.line.filter (· < 1) with
  | some n => .error (.lineTooSmall n)
  | none =>
    if f.isValid then
      if f.error = none ∧ f.kind = none ∧ f.line = none ∧ f.hint = none then
        .ok ⟨.accepted, dialect.name, count⟩
      else .error (.validWithError dialect count)
    else match f.error with
      | none => .error (.invalidWithoutError dialect count)
      | some m => .ok ⟨.rejected ⟨m, f.kind, f.line.bind LineNumber.ofInt?, f.hint⟩, dialect.name, count⟩

theorem filter_lt_eq_none_iff {l : Option Int} :
    l.filter (· < 1) = none ↔ ∀ n ∈ l, 1 ≤ n := by
  cases l <;> simp [Option.filter]

theorem of_ofFinding_eq_ok {dialect : Dialect} {count : Nat} {f : Finding} {d : Diagnostic}
    (h : ofFinding dialect count f = .ok d) :
    f.Coherent ∧ d.finding = f ∧ d.diagramType = dialect.name ∧ d.elementCount = count := by
  unfold ofFinding at h
  split at h
  · cases h
  next hl =>
  rw [filter_lt_eq_none_iff] at hl
  obtain ⟨valid, error, kind, line, hint⟩ := f
  cases valid with
  | true =>
    simp only [if_true] at h
    split at h
    · next hn =>
      injection h with h
      subst h
      obtain ⟨rfl, rfl, rfl, rfl⟩ := hn
      exact ⟨Finding.coherent_accepted, rfl, rfl, rfl⟩
    · cases h
  | false =>
    cases error with
    | none => cases h
    | some m =>
      injection h with h
      subst h
      refine ⟨⟨hl, by simp, by simp⟩, ?_, rfl, rfl⟩
      simp [finding, isValid, Diagnostic.error, Diagnostic.kind, Diagnostic.line, Diagnostic.hint,
        Verdict.problem?, LineNumber.map_ofInt? hl]

theorem exists_ofFinding_of_coherent (dialect : Dialect) (count : Nat) {f : Finding}
    (h : f.Coherent) : ∃ d, ofFinding dialect count f = .ok d := by
  unfold ofFinding
  rw [filter_lt_eq_none_iff.2 h.line_pos]
  by_cases hv : f.isValid = true
  · simp [hv, h.valid hv]
  · rw [Bool.not_eq_true] at hv
    cases hm : f.error with
    | none => exact absurd hm (h.invalid hv)
    | some m => simp [hv]

/-- **A diagnostic is made of a coherent finding**, and carries all of it. -/
theorem ofFinding_eq_ok_iff {dialect : Dialect} {count : Nat} {f : Finding} {d : Diagnostic} :
    ofFinding dialect count f = .ok d ↔
      f.Coherent ∧ d.finding = f ∧ d.diagramType = dialect.name ∧ d.elementCount = count := by
  refine ⟨of_ofFinding_eq_ok, ?_⟩
  rintro ⟨hc, hf, ht, hn⟩
  obtain ⟨e, he⟩ := exists_ofFinding_of_coherent dialect count hc
  obtain ⟨-, hf', ht', hn'⟩ := of_ofFinding_eq_ok he
  rw [he, ext_finding (hf'.trans hf.symm) (ht'.trans ht.symm) (hn'.trans hn.symm)]

end Diagnostic

/-! ## Diagnostics in a context -/

/-- A diagnostic with its place in a batch. -/
structure BatchDiagnostic extends Diagnostic where
  /-- How many diagrams of the batch come before. -/
  index : Nat
  deriving Repr, DecidableEq

/-- How a diagram was edited. -/
inductive ChangeType where
  | add
  | remove
  | modify
  /-- The whole text is new. -/
  | full
  deriving Repr, DecidableEq

namespace ChangeType

/-- The changes in the order in which they are listed for the user. -/
def all : List ChangeType := [add, remove, modify, full]

/-- The name of a change. -/
def name : ChangeType → String
  | add => "add"
  | remove => "remove"
  | modify => "modify"
  | full => "full"

/-- The change with a name. -/
def ofName? (s : String) : Option ChangeType := all.find? (·.name == s)

theorem mem_all (c : ChangeType) : c ∈ all := by
  cases c <;> decide

theorem ofName?_name (c : ChangeType) : ofName? c.name = some c := by
  cases c <;> rfl

end ChangeType

/-- A diagnostic for a diagram that is being edited. -/
structure RealtimeDiagnostic extends Diagnostic where
  change : ChangeType
  /-- The line of the edit, as it was given. -/
  lineNumber : Option Int
  realtime : Bool := true
  /-- The diagnostic in words. -/
  message : String := ""
  deriving Repr, DecidableEq

end DiagramLint
