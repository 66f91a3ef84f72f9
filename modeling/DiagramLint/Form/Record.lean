/-
  Building diagnostics from forms.

  * `Draft`: the fields of a diagnostic, each correct by itself;
  * `Diagnostic.ofForm`, `BatchDiagnostic.ofForm`, `RealtimeDiagnostic.ofForm`: the record that a
    form describes.  The fields are checked one by one, and only if all of them pass is it asked
    whether error and validity go together;
  * `Finding.ofForm`: the same for a finding, whose parts need not go together.
-/
import DiagramLint.Form.Field

namespace DiagramLint

/-! ## Names -/

namespace FieldName

def isValid : FieldName := ⟨"isValid", "is_valid"⟩
def error : FieldName := single "error"
def kind : FieldName := single "type"
def line : FieldName := single "line"
def hint : FieldName := single "suggestion"
def processingTime : FieldName := ⟨"processingTime", "processing_time"⟩
def diagramType : FieldName := ⟨"diagramType", "diagram_type"⟩
def elementCount : FieldName := ⟨"elementCount", "element_count"⟩
def index : FieldName := single "index"
def changeType : FieldName := ⟨"changeType", "change_type"⟩
def lineNumber : FieldName := ⟨"lineNumber", "line_number"⟩
def realtime : FieldName := single "realtime"
def message : FieldName := single "message"

end FieldName

/-! ## Drafts -/

/-- The fields of a diagnostic, each correct by itself. -/
structure Draft where
  isValid : Bool
  error : Option String
  kind : Option ErrorKind
  line : Option LineNumber
  hint : Option String
  processingTime : Duration
  diagramType : String
  elementCount : Nat
  deriving Repr, DecidableEq

namespace Draft

/-- The number of a line. -/
def checkLine (path : List String) (v : Json) : Checked LineNumber :=
  (Checked.integer path v).andThen fun n =>
    match LineNumber.ofInt? n with
    | some l => .ok l
    | none => .fail path (.belowLeast 1)

/-- The fields that a form fills in. -/
def ofForm (form : Json) : Checked Draft :=
  mk <$> FieldName.isValid.required form Checked.bool
    <*> FieldName.error.optional form Checked.text
    <*> FieldName.kind.optional form Checked.errorKind
    <*> FieldName.line.optional form checkLine
    <*> FieldName.hint.optional form Checked.text
    <*> FieldName.processingTime.withDefault form Checked.duration .zero
    <*> FieldName.diagramType.withDefault form Checked.text Dialect.unknown.name
    <*> FieldName.elementCount.withDefault form Checked.count 0

/-- The diagnostic that a draft describes, if validity and error go together.  The time is no part of
    it: it is measured, and differs from run to run. -/
def toDiagnostic (d : Draft) : Checked Diagnostic :=
  if d.isValid then
    if d.error = none ∧ d.kind = none ∧ d.line = none ∧ d.hint = none then
      .ok ⟨.accepted, d.diagramType, d.elementCount⟩
    else .fail [] .validWithError
  else match d.error with
    | none => .fail [] .invalidWithoutError
    | some m => .ok ⟨.rejected ⟨m, d.kind, d.line, d.hint⟩, d.diagramType, d.elementCount⟩

end Draft

/-! ## Records -/

/-- The diagnostic that a form describes. -/
def Diagnostic.ofForm (form : Json) : Checked Diagnostic :=
  (Draft.ofForm form).andThen Draft.toDiagnostic

/-- The fields of a diagnostic of a batch. -/
def BatchDiagnostic.fields (form : Json) : Checked (Draft × Nat) :=
  Prod.mk <$> Draft.ofForm form <*> FieldName.index.required form Checked.count

/-- The diagnostic of a batch that a form describes. -/
def BatchDiagnostic.ofForm (form : Json) : Checked BatchDiagnostic :=
  (fields form).andThen fun (draft, index) => draft.toDiagnostic.map fun d => ⟨d, index⟩

/-- The fields of a diagnostic of an edit. -/
def RealtimeDiagnostic.fields (form : Json) :
    Checked (Draft × ChangeType × Option Int × Bool × String) :=
  (fun draft change line realtime message => (draft, change, line, realtime, message))
    <$> Draft.ofForm form
    <*> FieldName.changeType.required form Checked.change
    <*> FieldName.lineNumber.optional form Checked.integer
    <*> FieldName.realtime.withDefault form Checked.bool true
    <*> FieldName.message.withDefault form Checked.text ""

/-- The diagnostic of an edit that a form describes. -/
def RealtimeDiagnostic.ofForm (form : Json) : Checked RealtimeDiagnostic :=
  (fields form).andThen fun (draft, change, line, realtime, message) =>
    draft.toDiagnostic.map fun d => ⟨d, change, line, realtime, message⟩

/-- The finding that a form describes, by its names in snake case. -/
def Finding.ofForm (form : Json) : Checked Finding :=
  (fun isValid error kind line hint => ⟨isValid, error, kind, line, hint⟩)
    <$> (FieldName.single "is_valid").required form Checked.bool
    <*> FieldName.error.optional form Checked.text
    <*> FieldName.kind.optional form Checked.errorKind
    <*> FieldName.line.optional form Checked.integer
    <*> FieldName.hint.optional form Checked.text

end DiagramLint
