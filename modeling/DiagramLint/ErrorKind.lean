/-
  The kinds of errors.

  * `ErrorKind`: what is wrong with a diagram.  Validation itself answers with the first six kinds;
    the others come from classifying a message;
  * `ErrorKind.name` and `ErrorKind.read`: a kind has one name, and reading accepts the names only
    (`ErrorKind.read_eq_ok_iff`);
  * `ErrorKind.advice`: the fixed advice for a kind.
-/
import DiagramLint.Dialect

namespace DiagramLint

/-- What is wrong with a diagram. -/
inductive ErrorKind where
  /-- There is no text. -/
  | inputError
  /-- No declaration opens the diagram. -/
  | noType
  /-- A line that the dialect requires is missing. -/
  | noData
  /-- A line has no shape that the dialect knows. -/
  | badSyntax
  /-- Nothing validates the dialect. -/
  | unsupported
  /-- Validation itself failed. -/
  | general
  | unknownCommand
  | parse
  | identifier
  | relation
  deriving Repr, DecidableEq

namespace ErrorKind

/-- The kinds in the order in which they are listed for the user. -/
def all : List ErrorKind :=
  [inputError, noType, noData, badSyntax, unsupported, general, unknownCommand, parse, identifier,
   relation]

/-- The name of a kind. -/
def name : ErrorKind → String
  | inputError => "input_error"
  | noType => "no_type"
  | noData => "no_data"
  | badSyntax => "syntax"
  | unsupported => "unsupported"
  | general => "general"
  | unknownCommand => "unknown_command"
  | parse => "parse"
  | identifier => "identifier"
  | relation => "relation"

/-- The kind with a name. -/
def read (s : String) : Except NameError ErrorKind :=
  match all.find? (·.name == s) with
  | some k => .ok k
  | none => .error (.errorKind s)

theorem mem_all (k : ErrorKind) : k ∈ all := by
  cases k <;> decide

/-- **A kind is read by its name and by nothing else.** -/
theorem read_eq_ok_iff {s : String} {k : ErrorKind} : read s = .ok k ↔ s = k.name := by
  unfold read
  constructor
  · intro h
    split at h
    · next e he =>
      injection h with h
      subst h
      have h := List.find?_some he
      exact (beq_iff_eq.1 h).symm
    · cases h
  · rintro rfl
    cases k <;> rfl

/-- The advice for a kind; a kind without advice of its own has the general one. -/
def advice : ErrorKind → String
  | badSyntax => "Check for missing semicolons, brackets, or incorrect syntax"
  | noType => "Add a diagram type at the beginning (e.g., graph TD, sequenceDiagram)"
  | unknownCommand => "Verify the command is supported in your diagram syntax version"
  | parse => "Check the structure and syntax of your diagram"
  | identifier => "Ensure all identifiers are valid and properly referenced"
  | relation => "Check arrow syntax and node connections"
  | inputError | noData | unsupported | general => "Review the diagram syntax and structure"

end ErrorKind

end DiagramLint
