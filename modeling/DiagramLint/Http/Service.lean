/-
  The service: requests and their responses.

  * `serve`: the response to a request, with the events on the way to it.  A path that leads nowhere
    is not found, one that only ends in the wrong slashes is redirected whatever the method, a
    method that the route does not have is not allowed, and a form that fails its checks is refused
    before the engine sees it;
  * `sent`: the response that is sent, of one that is known in both readings of the request.  It
    shows no surrogate that stands alone, since no text that is sent can hold one;
  * `unexpected` and `rejection`: the responses to failures;
  * `lifetime`: the events from the start of the service to its end.
-/
import DiagramLint.Http.Request
import DiagramLint.Json.Showable
import DiagramLint.Wire

namespace DiagramLint.Http

/-! ## Responses -/

/-- The answer to a request. -/
structure Response where
  status : Nat
  body : Json
  /-- The values at fault that a report of errors shows beside its body. -/
  shown : List Json := []
  deriving Repr, DecidableEq

/-- A success. -/
def success (body : Json) : Response := { status := 200, body }

/-- An answer with a remark only. -/
def remark (status : Nat) (detail : String) : Response :=
  { status, body := .obj [("detail", detail)] }

/-- The answer to a method that is not that of the path. -/
def methodNotAllowed : Response := remark 405 "Method Not Allowed"

/-- An answer that carries no value. -/
def bare (status : Nat) : Response := { status, body := .null }

/-- The answer to a value that the service does not take. -/
def rejection (message : String) : Response :=
  { status := 422, body := .obj [("error", "validation_error"), ("message", message)] }

/-- The answer to a form with errors, which shows the values at fault. -/
def refusal (es : List FieldError) : Response where
  status := 422
  body := .obj [("detail", .arr (es.map (·.toJson)))]
  shown := es.map (·.value.shown)

/-- The answer to a failure that nothing foresaw. -/
def failure : Response :=
  { status := 500
    body := .obj [("error", "internal_server_error"),
      ("message", "An unexpected error occurred. Please try again.")] }

/-- The answer to a failure of a request, and the event that reports it. -/
def unexpected (path method message : String) : Traced Response :=
  ⟨failure, [.unhandled path method message]⟩

/-- The answer to a body that holds no form. -/
def BodyError.response : BodyError → Response
  | .refused e => refusal [e]
  | .unreadable => remark 400 "There was an error parsing the body"

/-! ## Writing a response -/

/-- All that a response writes: its body, and the values at fault. -/
def Response.written (r : Response) : Json := .arr (r.body :: r.shown)

/-- The first surrogates that a response shows, by its two readings. -/
def firstRun? (r : Reading → Response) : Option Text.Run :=
  Json.firstRun? (r .first).written (r .second).written

/-- Why a response that shows surrogates is not written.  A success is written from its record, and
    a report from its values. -/
def unencodable (status : Nat) (run : Text.Run) : String :=
  (if status = 200 then "Error serializing to JSON: UnicodeEncodeError: " else "") ++ run.message

/-- The response that is sent.  One that cannot be written gives way to the reason: it shows a number
    that is not finite, or else a surrogate that stands alone. -/
def sent (r : Reading → Response) : Response :=
  if (r .first).shown.all (·.isFinite) then
    match firstRun? r with
    | none => r .first
    | some run => rejection (unencodable (r .first).status run)
  else rejection "Out of range float values are not JSON compliant"

/-! ## The service -/

/-- The name of the service. -/
def serviceName : String := "mermaid-validator"

/-- The version of the service. -/
def serviceVersion : String := "1.0.0"

/-- What the service has to offer. -/
def features : List String :=
  ["Real-time syntax validation", "Batch validation", "Detailed error reporting",
   "Performance monitoring", "Lightweight memory footprint"]

/-- The most diagrams that a batch may have. -/
def maxBatchSize : Nat := 100

/-- The answer at the root. -/
def rootBody : Json :=
  .obj [("name", serviceName), ("version", serviceVersion),
    ("description", "Real-time Mermaid diagram syntax validation"), ("docs", "/docs"),
    ("health", Route.health.path)]

/-- The answer to the question for health. -/
def healthBody : Json := .obj [("status", "healthy"), ("version", serviceVersion)]

/-- The answer to the question for information. -/
def infoBody (e : Engine) : Json :=
  .obj [("server", .obj [("name", serviceName), ("version", serviceVersion)]),
    ("supportedTypes", .ofTexts declarationKeywords), ("stats", e.stats.toJson),
    ("features", .ofTexts features)]

/-- The answer that conveys what the engine gives, or the text of its failure. -/
def conveyed {α : Type} (write : α → Json) : Except OverlongNumber α → Response
  | .ok a => success (write a)
  | .error o => rejection o.message

/-- The body of the answer for a submission. -/
def validationBody (d : Diagnostic) : Json :=
  .obj [("success", true), ("validation", d.toJson .camel)]

/-- The body of the answer for a batch. -/
def batchBody (ds : List BatchDiagnostic) : Json :=
  .obj [("success", true), ("results", .arr (ds.map (·.toJson .camel)))]

/-- The answer for a submission. -/
def serveValidate (e : Engine) (form : Json) : Traced Response :=
  let code := submission form
  ((e.validate code).map (conveyed validationBody)).after [.validateRequested code.chars]

/-- The answer for a batch. -/
def serveBatch (e : Engine) (codes : List Submission) : Traced Response :=
  if codes.length > maxBatchSize then
    ⟨rejection ("Batch of " ++ toString codes.length ++ " diagrams exceeds the limit of " ++
      toString maxBatchSize), []⟩
  else
    ((e.validateBatch codes).map (conveyed batchBody)).after [.batchRequested codes.length]

/-- The answer that conveys what the engine gives for an edit. -/
def conveyedEdit : Except EditError RealtimeDiagnostic → Response
  | .ok d => success (d.toJson .camel)
  | .error (.overlong o) => rejection o.message
  | .error .unwritable => rejection unwritableMessage
  | .error (.fields es) => refusal es

/-- The answer for an edit. -/
def serveRealtime (e : Engine) (r : RealtimeRequest) : Traced Response :=
  ((e.validateRealtime r.code r.change.name (.ofInt? r.line)).map conveyedEdit).after
    [.realtimeRequested r.change r.line]

/-- The answer for a form that passes its checks, or the errors of the form. -/
def answerChecked {α : Type} (c : Checked α) (f : α → Traced Response) : Traced Response :=
  match (c.under "body").toExcept with
  | .ok a => f a
  | .error es => ⟨refusal es, []⟩

/-- The answer of a route to a reading of the body of a request. -/
def answerReading (e : Engine) (r : Route) (b : String) (rd : Reading) : Traced Response :=
  let withForm (f : Json → Traced Response) : Traced Response := match bodyForm rd b with
    | .ok form => f form
    | .error err => ⟨err.response, []⟩
  match r with
  | .root => ⟨success rootBody, []⟩
  | .health => ⟨success healthBody, []⟩
  | .info => ⟨success (infoBody e), []⟩
  | .validate => withForm (serveValidate e)
  | .batch => withForm fun form => answerChecked (batchRequest form) (serveBatch e)
  | .realtime => withForm fun form => answerChecked (realtimeRequest form) (serveRealtime e)

/-- The answer of a route to the body of a request. -/
def answer (e : Engine) (r : Route) (b : String) : Traced Response :=
  ⟨sent fun rd => (answerReading e r b rd).value, (answerReading e r b .first).events⟩

/-- The response to a request. -/
def serve (e : Engine) (r : Request) : Traced Response :=
  match destination r.path.toList with
  | .route route =>
    if r.method = route.method then answer e route r.body else ⟨methodNotAllowed, []⟩
  | .page => ⟨if r.method ∈ pageMethods then bare 200 else methodNotAllowed, []⟩
  | .redirection => ⟨bare 307, []⟩
  | .nowhere => ⟨remark 404 "Not Found", []⟩

/-- What the log says of the life of the service. -/
def lifetime (e : Engine) (debug : Bool) : List Event :=
  [.starting debug, .started e.stats.dialects e.stats.method, .stopped]

end DiagramLint.Http
