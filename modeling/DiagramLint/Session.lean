/-
  Sessions: an engine and what is asked of it, one command after another.

  * `Offer`: a validator for a dialect that is known by its name only;
  * `Command` and `Reply`: what is asked, and what is answered;
  * `Engine.step` and `Engine.run`: the engine after a command, or after all of them, with the
    replies.

  Only `add` and `remove` change the engine, and only when the name is that of a dialect.
-/
import DiagramLint.Http.Service

namespace DiagramLint

/-- A validator that is offered for a dialect by name. -/
structure Offer where
  dialect : String
  behaviour : Dialect → Behaviour

/-- The validator, if the name is that of a dialect.  The look-up stands for the one that the offered
    validator makes itself when it is asked for its dialect, as it is first of all on being added. -/
def Offer.validator (o : Offer) : Except NameError Validator :=
  (Dialect.read o.dialect).map fun d => ⟨d, o.behaviour d⟩

/-- What is asked of an engine. -/
inductive Command where
  | validate (code : Submission)
  | batch (codes : List Submission)
  | realtime (code : Submission) (change line : Json)
  | stats
  | add (offer : Offer)
  | remove (dialect : String)
  | http (request : Http.Request)

/-- What an engine answers. -/
inductive Reply where
  | diagnostic (d : Diagnostic)
  | batch (ds : List BatchDiagnostic)
  | realtime (d : RealtimeDiagnostic)
  | stats (s : Stats)
  /-- A validator of that name was added; the dialects are those that have a validator now. -/
  | added (name : String) (dialects : List Dialect)
  | removed (dialects : List Dialect)
  | response (r : Http.Response)
  deriving Repr, DecidableEq

/-- Why a command is not carried out. -/
inductive CommandError where
  | name (e : NameError)
  | overlong (o : OverlongNumber)
  | unwritable
  | fields (es : List FieldError)
  deriving Repr, DecidableEq

/-- The failure of an edit as that of a command. -/
def CommandError.ofEdit : EditError → CommandError
  | .overlong o => .overlong o
  | .unwritable => .unwritable
  | .fields es => .fields es

namespace Engine

/-- The engine after a command, and the reply to it. -/
def step (e : Engine) : Command → Engine × Traced (Except CommandError Reply)
  | .validate code => (e, (e.validate code).map fun r => (r.map .diagnostic).mapError .overlong)
  | .batch codes => (e, (e.validateBatch codes).map fun r => (r.map .batch).mapError .overlong)
  | .realtime code change line =>
    (e, (e.validateRealtime code change line).map fun r => (r.map .realtime).mapError .ofEdit)
  | .stats => (e, ⟨.ok (.stats e.stats), []⟩)
  | .add offer => match offer.validator with
    | .ok v => (e.insert v, ⟨.ok (.added v.name (e.insert v).registry.dialects), []⟩)
    | .error err => (e, ⟨.error (.name err), []⟩)
  | .remove name => match Dialect.read name with
    | .ok d => (e.erase d, ⟨.ok (.removed (e.erase d).registry.dialects), []⟩)
    | .error err => (e, ⟨.error (.name err), []⟩)
  | .http request => (e, (Http.serve e request).map fun r => .ok (.response r))

/-- The engine after some commands, and the replies to them. -/
def run (e : Engine) : List Command → Engine × Traced (List (Except CommandError Reply))
  | [] => (e, ⟨[], []⟩)
  | c :: cs =>
    let (e, reply) := e.step c
    let (e, replies) := e.run cs
    (e, reply.andThen fun r => replies.map (r :: ·))

/-- The engine after a command and some more is the one after these, begun where the command left
    off. -/
theorem fst_run_cons (e : Engine) (c : Command) (cs : List Command) :
    (e.run (c :: cs)).1 = ((e.step c).1.run cs).1 := rfl

end Engine

end DiagramLint
