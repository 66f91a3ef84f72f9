/-
  Validators.

  * `Validator`: what answers for the diagrams of one dialect, with a finding or with a fault;
  * `Fault`: why there is no usable finding, with `Fault.message`;
  * `Validator.ofTable`: the validator that scans by a table;
  * `Validator.accepting`, `Validator.rejecting`, `Validator.crashing`: validators that answer all
    diagrams alike.
-/
import DiagramLint.Diagnostic
import DiagramLint.Grammar
import DiagramLint.Scan

namespace DiagramLint

/-! ## Excerpts -/

namespace Text

/-- The text, or its first 25 and last 24 characters if it has more than fifty. -/
def excerpt (s : String) : String :=
  let cs := s.toList
  if cs.length ≤ 50 then s
  else String.ofList (cs.take 25 ++ ['.', '.', '.'] ++ cs.drop (cs.length - 24))

/-- An excerpt is never longer than 52 characters. -/
theorem length_excerpt_le (s : String) : (excerpt s).toList.length ≤ 52 := by
  simp only [excerpt]
  split
  · omega
  · simp only [String.toList_ofList, List.length_append, List.length_take, List.length_drop,
      List.length_cons, List.length_nil]
    omega

end Text

open Text

/-! ## Faults -/

/-- Why a validator gave no usable finding. -/
inductive Fault where
  /-- It failed with a text of its own. -/
  | crashed (message : String)
  /-- It named no error kind. -/
  | unknownName (e : NameError)
  /-- The parts of its finding do not go together. -/
  | incoherent (e : Incoherence)
  deriving Repr, DecidableEq

/-- The most digits that an integer may have in a text. -/
def maxWrittenDigits : Nat := 4300

/-- The integer has too many digits to be written. -/
def isUnwritable (n : Int) : Bool := maxWrittenDigits < (Nat.toDigits 10 n.natAbs).length

/-- An integer in a report; one that cannot be written is shown by its type only. -/
def shownInteger (n : Int) : String :=
  if isUnwritable n then "<unprintable int object>" else toString n

/-- Where the pages about mistakes are, one for each tag. -/
def mistakePages : String := "https://errors.pydantic.dev/2.14/v/"

/-- The report of one mistake in a diagnostic: what is wrong in which part, and the value. -/
def mistakeReport (place problem tag value type : String) : String :=
  "1 validation error for Diagnostic\n" ++ place ++ "  " ++ problem ++ " [type=" ++ tag ++
    ", input_value=" ++ excerpt value ++ ", input_type=" ++ type ++
    "]\n    For further information visit " ++ mistakePages ++ tag

/-- The beginning and the end of the record of a diagnostic. -/
def recordOutline (isValid : Bool) (dialect : Dialect) (count : Nat) : String :=
  "\x7b'is_valid': " ++ (if isValid then "True" else "False") ++ ", 'error': None, 'type': None, " ++
    "'diagram_type': '" ++ dialect.name ++ "', 'element_count': " ++ toString count ++ "\x7d"

/-- The text for the user. -/
def Incoherence.message : Incoherence → String
  | .lineTooSmall line =>
    mistakeReport "line\n" "Input should be greater than or equal to 1" "greater_than_equal"
      (shownInteger line) "int"
  | .validWithError dialect count =>
    mistakeReport "" "Value error, a valid diagnostic cannot carry error fields" "value_error"
      (recordOutline true dialect count) "dict"
  | .invalidWithoutError dialect count =>
    mistakeReport "" "Value error, an invalid diagnostic needs an error message" "value_error"
      (recordOutline false dialect count) "dict"

/-- The text for the user. -/
def Fault.message : Fault → String
  | .crashed message => message
  | .unknownName e => e.message
  | .incoherent e => e.message

/-! ## Validators -/

/-- How a validator answers for the lines of a diagram. -/
abbrev Behaviour := List Line → Except Fault Finding

/-- What answers for the diagrams of one dialect. -/
structure Validator where
  dialect : Dialect
  run : Behaviour

namespace Validator

/-- The name of a validator. -/
def name (v : Validator) : String := v.dialect.name ++ "Validator"

/-- The validator that scans by a table. -/
def ofTable (t : RuleTable) : Validator := ⟨t.dialect, fun ls => .ok (t.scan ls)⟩

/-- Every diagram is accepted. -/
def acceptAll : Behaviour := fun _ => .ok .accepted

/-- Every diagram is rejected, for an error kind that is known by its name only. -/
def rejectAll (kind : String) (error : Option String) (line : Option Int) (hint : Option String) :
    Behaviour := fun _ =>
  match ErrorKind.read kind with
  | .ok k => .ok ⟨false, error, some k, line, hint⟩
  | .error e => .error (.unknownName e)

/-- Every diagram makes the validator fail. -/
def crashAlways (message : String) : Behaviour := fun _ => .error (.crashed message)

end Validator

/-- One validator for each grammar, in the order of detection. -/
def defaultValidators : List Validator := Grammar.tables.map .ofTable

end DiagramLint
