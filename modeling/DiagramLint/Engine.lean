/-
  The engine: from a text to its diagnostic.

  * `Engine.validate`: the dialect is detected, its validator is asked, and the finding becomes a
    diagnostic.  A fault of the validator becomes a diagnostic of the kind `general`;
  * `Engine.validateBatch`: the texts one after another, each with its place;
  * `Engine.validateRealtime`: the same diagnostic for a text that is being edited, in words as well.

  Only one thing is answered by no diagnostic: a fault whose text refers to a line by a number with
  more digits than are read.  A diagnostic whose line has more digits than are written is not put in
  words.
-/
import DiagramLint.Detect
import DiagramLint.Event
import DiagramLint.Form.Field
import DiagramLint.Reference
import DiagramLint.Registry

namespace DiagramLint

open Text

/-- What is handed in for validation. -/
inductive Submission where
  | text (s : String)
  /-- A value that is no text, and that can be tested for truth without a failure. -/
  | notText
  deriving Repr, DecidableEq

/-- A value of JSON as a submission. -/
def Submission.ofJson : Json → Submission
  | .str s => .text s
  | _ => .notText

/-- The number of characters of a submitted text; what is no text has none. -/
def Submission.chars : Submission → Nat
  | .text s => s.length
  | .notText => 0

/-- The number of lines of a submitted text; what is no text has none. -/
def Submission.lineCount : Submission → Nat
  | .text s => (lines s).length
  | .notText => 0

/-- The validators in use. -/
structure Engine where
  registry : Registry

/-- A snapshot of an engine. -/
structure Stats where
  isInitialized : Bool
  supportedTypes : Nat
  dialects : List Dialect
  method : String
  deriving Repr, DecidableEq

/-! ## Diagnostics that need no validator -/

/-- The answer for what is no text, or an empty one. -/
def Diagnostic.noInput : Diagnostic where
  verdict := .rejected
    { message := "Diagram code must be a non-empty string", kind := some .inputError }
  diagramType := Dialect.unknown.name
  elementCount := 0

/-- The answer for a text of no dialect. -/
def Diagnostic.noDialect : Diagnostic where
  verdict := .rejected
    { message := "No valid diagram type detected"
      kind := some .noType
      line := some ⟨1, by decide⟩
      hint := some ErrorKind.noType.advice }
  diagramType := Dialect.unknown.name
  elementCount := 0

/-- The finding for a dialect that has no validator. -/
def Finding.unsupported (d : Dialect) : Finding :=
  .rejected .unsupported ("Unsupported diagram type: " ++ d.name) (some 1)
    (some "Use a supported diagram type")

theorem Finding.coherent_unsupported (d : Dialect) : (unsupported d).Coherent :=
  coherent_rejected (by simp)

/-- The answer for a text whose validator is at fault; the line is the one that the text of the
    fault refers to. -/
def Diagnostic.ofFault (d : Dialect) (message : String) : Except OverlongNumber Diagnostic :=
  (lineReference message).map fun line =>
    { verdict := .rejected
        { message := message
          kind := some .general
          line := line.bind LineNumber.ofNat?
          hint := some ErrorKind.general.advice }
      diagramType := d.name
      elementCount := 0 }

/-- The diagnostic in words: how many elements a valid diagram has, or else the error, its line and
    the advice on a line of its own. -/
def Diagnostic.summary (d : Diagnostic) : String :=
  match d.verdict with
  | .accepted =>
    "Valid " ++ d.diagramType ++ " diagram (" ++ toString d.elementCount ++ " elements)"
  | .rejected p =>
    let line := match p.line with
      | some n => " (line " ++ toString n.val ++ ")"
      | none => ""
    let hint := match p.hint with
      | some h => if h.isEmpty then "" else "\nHint: " ++ h
      | none => ""
    p.message ++ line ++ hint

/-! ## The engine -/

namespace Engine

/-- The engine with the given validators, of which a later one replaces an earlier one. -/
def ofValidators (vs : List Validator) : Engine := ⟨.ofList vs⟩

/-- The engine with a validator for each grammar. -/
def standard : Engine := ofValidators defaultValidators

/-- How the engine validates. -/
def method : String := "regex-based"

/-- A snapshot of the engine. -/
def stats (e : Engine) : Stats where
  isInitialized := true
  supportedTypes := declarationKeywords.length
  dialects := e.registry.dialects
  method := method

/-- The engine with a validator. -/
def insert (e : Engine) (v : Validator) : Engine := ⟨e.registry.insert v⟩

/-- The engine without a validator for a dialect. -/
def erase (e : Engine) (d : Dialect) : Engine := ⟨e.registry.erase d⟩

/-- The finding of the validator for a dialect. -/
def examine (e : Engine) (d : Dialect) (ls : List Line) : Traced (Except Fault Finding) :=
  match e.registry.find? d with
  | some v => ⟨v.run ls, []⟩
  | none => ⟨.ok (.unsupported d), [.validatorMissing d]⟩

/-- The diagnostic for a finding, or the fault that stands in its way. -/
def assemble (d : Dialect) (ls : List Line) (r : Except Fault Finding) :
    Except Fault Diagnostic := do
  let f ← r
  (Diagnostic.ofFinding d (elementCount ls) f).mapError .incoherent

/-- The diagnostic for the lines of a diagram of a dialect. -/
def validateLines (e : Engine) (d : Dialect) (ls : List Line) :
    Traced (Except OverlongNumber Diagnostic) :=
  (e.examine d ls).andThen fun r => match assemble d ls r with
    | .ok x => ⟨.ok x, [.validationComplete x]⟩
    | .error fault => ⟨Diagnostic.ofFault d fault.message, [.validationFailed d fault]⟩

/-- The diagnostic for a text. -/
def validateText (e : Engine) (s : String) : Traced (Except OverlongNumber Diagnostic) :=
  match detect (lines s) with
  | .unknown => ⟨.ok .noDialect, []⟩
  | d => e.validateLines d (lines s)

/-- The diagnostic for a submission. -/
def validate (e : Engine) : Submission → Traced (Except OverlongNumber Diagnostic)
  | .notText => ⟨.ok .noInput, []⟩
  | .text s => if s.isEmpty then ⟨.ok .noInput, []⟩ else e.validateText s

/-! ## Batches -/

/-- The diagnostics for the submissions of a batch from place `i` on. -/
def validateFrom (e : Engine) (i : Nat) :
    List Submission → Traced (Except OverlongNumber (List BatchDiagnostic))
  | [] => ⟨.ok [], []⟩
  | c :: cs => (e.validate c).andThen fun
    | .error o => ⟨.error o, []⟩
    | .ok d => (e.validateFrom (i + 1) cs).map (·.map (⟨d, i⟩ :: ·))

/-- The diagnostics for a batch. -/
def validateBatch (e : Engine) (cs : List Submission) :
    Traced (Except OverlongNumber (List BatchDiagnostic)) :=
  (e.validateFrom 0 cs).andThen fun
    | .error o => ⟨.error o, []⟩
    | .ok ds => ⟨.ok ds, [.batchComplete ds.length (ds.countP fun d => !d.isValid)]⟩

end Engine

/-! ## Edits -/

/-- The value stands for nothing: it is null, false, zero or empty. -/
def Json.isVoid : Json → Bool
  | .null | .bool false | .num (.int 0) | .str "" | .arr [] | .obj [] => true
  | .num (.decimal m e) => Double.ofDecimal m e == .whole 0
  | _ => false

/-- The line of a diagnostic cannot be written.  The lines of a text are never so many, so that only
    a line behind all of them, which some validator made up, is in question. -/
def Diagnostic.hasUnwritableLine (d : Diagnostic) (lineCount : Nat) : Bool :=
  d.line.any fun n => lineCount < n.val && isUnwritable n.val

/-- Why an edit is not answered. -/
inductive EditError where
  | overlong (o : OverlongNumber)
  /-- The line of the diagnostic cannot be written. -/
  | unwritable
  /-- The edit is not described as it should be. -/
  | fields (es : List FieldError)
  deriving Repr, DecidableEq

/-- The text of the failure to write an integer. -/
def unwritableMessage : String :=
  "Exceeds the limit (" ++ toString maxWrittenDigits ++
    " digits) for integer string conversion; use sys.set_int_max_str_digits() to increase the limit"

/-- The description of an edit: the change, and the line if one is given. -/
def checkEdit (change line : Json) : Checked (ChangeType × Option Int) :=
  Prod.mk <$> Checked.change ["change_type"] change
    <*> if line.isVoid then .ok none else (Checked.integer ["line_number"] line).map some

/-- The diagnostic for a text that is being edited.  The text is validated and put in words in any
    case. -/
def Engine.validateRealtime (e : Engine) (code : Submission) (change line : Json) :
    Traced (Except EditError RealtimeDiagnostic) :=
  (e.validate code).map fun
    | .error o => .error (.overlong o)
    | .ok d =>
      if d.hasUnwritableLine code.lineCount then .error .unwritable
      else match (checkEdit change line).toExcept with
        | .error es => .error (.fields es)
        | .ok (change, line) =>
          .ok { d with change := change, lineNumber := line, message := d.summary }

end DiagramLint
