/-
  Requests to the service.

  * `Request`: a method, a path and the text of a body;
  * `bodyValue` and `bodyForm`: the value that a body holds, and a reading of the form in it;
  * `submission`, `batchRequest` and `realtimeRequest`: what a form asks for.
-/
import DiagramLint.Engine
import DiagramLint.Form.Record
import DiagramLint.Http.Route
import DiagramLint.Json.Encoding
import DiagramLint.Json.Reading

namespace DiagramLint.Http

/-- A request to the service; one without a body carries an empty text. -/
structure Request where
  method : String
  path : String
  body : String := ""
  deriving Repr, DecidableEq

/-! ## Bodies -/

/-- Why a body holds no form. -/
inductive BodyError where
  | refused (e : FieldError)
  /-- The text has no encoding, or is JSON but not read. -/
  | unreadable
  deriving Repr, DecidableEq

/-- The value that a body holds, with its texts code by code. -/
def bodyValue (b : String) : Except BodyError (Json Codes) :=
  if b.isEmpty then .error (.refused { path := ["body"], problem := .missing })
  else match Json.readEncoded b with
    | .ok v => .ok v
    | .error .malformed => .error (.refused { path := ["body"], problem := .malformed })
    | .error .overlong | .error .tooDeep | .error .undecodable => .error .unreadable

/-- A reading of the form that a body holds: of a value that is an object. -/
def bodyForm (rd : Reading) (b : String) : Except BodyError Json := do
  match rd.json (← bodyValue b) with
  | .obj members => return .obj members
  | v => .error (.refused ⟨["body"], .notAnObject, v⟩)

/-! ## Forms -/

def diagramCode : FieldName := ⟨"diagramCode", "diagram_code"⟩
def diagrams : FieldName := .single "diagrams"

/-- The submission of a form; where there is none, it is what is no text. -/
def submission (form : Json) : Submission :=
  .ofJson (((diagramCode.given? form).map (·.2)).getD .null)

/-- The submissions of a batch. -/
def batchRequest (form : Json) : Checked (List Submission) :=
  (diagrams.required form Checked.list).map (·.map .ofJson)

/-- What an edit asks for. -/
structure RealtimeRequest where
  code : Submission
  change : ChangeType
  line : Option Int
  deriving Repr, DecidableEq

/-- The edit that a form describes. -/
def realtimeRequest (form : Json) : Checked RealtimeRequest :=
  (fun change line => ⟨submission form, change, line⟩)
    <$> FieldName.changeType.required form Checked.change
    <*> FieldName.lineNumber.optional form (Checked.integerFrom 1)

end DiagramLint.Http
