/-
  Events for the log.

  * `Event`: what happens in the engine and in the service, with its name, its severity and its
    details;
  * `Traced α`: a value with the events on the way to it.
-/
import DiagramLint.Json.Basic
import DiagramLint.Validator

namespace DiagramLint

/-- How grave an event is. -/
inductive Severity where
  | debug
  | info
  | warning
  | error
  deriving Repr, DecidableEq

/-- The name of a severity. -/
def Severity.name : Severity → String
  | debug => "debug"
  | info => "info"
  | warning => "warning"
  | error => "error"

/-- What happens. -/
inductive Event where
  /-- A diagram was validated. -/
  | validationComplete (d : Diagnostic)
  /-- The validator of a dialect gave no usable finding. -/
  | validationFailed (dialect : Dialect) (fault : Fault)
  /-- No validator is registered for a dialect. -/
  | validatorMissing (dialect : Dialect)
  /-- A batch was validated. -/
  | batchComplete (total invalid : Nat)
  /-- Validation is asked for, of a text with so many characters. -/
  | validateRequested (chars : Nat)
  /-- Validation is asked for, of a batch with so many diagrams. -/
  | batchRequested (size : Nat)
  /-- Validation is asked for, after an edit. -/
  | realtimeRequested (change : ChangeType) (line : Option Int)
  /-- A request failed for a reason that nothing foresaw. -/
  | unhandled (path method message : String)
  /-- The service is about to start. -/
  | starting (debug : Bool)
  /-- The service is ready. -/
  | started (dialects : List Dialect) (method : String)
  /-- The service has ended. -/
  | stopped
  deriving Repr, DecidableEq

namespace Event

/-- The name of an event. -/
def name : Event → String
  | validationComplete _ => "validation_complete"
  | validationFailed _ _ => "validation_failed"
  | validatorMissing _ => "validator_missing"
  | batchComplete _ _ => "batch_validation_complete"
  | validateRequested _ => "validate_requested"
  | batchRequested _ => "batch_requested"
  | realtimeRequested _ _ => "realtime_requested"
  | unhandled _ _ _ => "unhandled_exception"
  | starting _ => "app_starting"
  | started _ _ => "app_started"
  | stopped => "app_stopped"

/-- How grave an event is. -/
def severity : Event → Severity
  | validationComplete _ => .debug
  | validationFailed _ _ | unhandled _ _ _ => .error
  | validatorMissing _ => .warning
  | batchComplete _ _ | validateRequested _ | batchRequested _ | realtimeRequested _ _
  | starting _ | started _ _ | stopped => .info

/-- What the log says about an event. -/
def details : Event → List (String × Json)
  | validationComplete d =>
    [("dialect", d.diagramType), ("is_valid", d.isValid),
     ("error_type", .ofOption (fun k : ErrorKind => k.name) d.kind),
     ("line", .ofOption (fun n : LineNumber => n.val) d.line)]
  | validationFailed dialect fault => [("dialect", dialect.name), ("error", fault.message)]
  | validatorMissing dialect => [("dialect", dialect.name)]
  | batchComplete total invalid => [("total", total), ("invalid", invalid)]
  | validateRequested chars => [("chars", chars)]
  | batchRequested size => [("size", size)]
  | realtimeRequested change line =>
    [("change_type", change.name), ("line_number", .ofOption (fun n : Int => n) line)]
  | unhandled path method message => [("path", path), ("method", method), ("error", message)]
  | starting debug => [("debug", debug)]
  | started dialects method =>
    [("dialects", .arr (dialects.map fun d => d.name)), ("validation_type", method)]
  | stopped => []

end Event

/-- A value, and the events on the way to it in their order. -/
structure Traced (α : Type) where
  value : α
  events : List Event := []
  deriving Repr, DecidableEq

namespace Traced

variable {α β : Type}

/-- The value under a function. -/
def map (f : α → β) (t : Traced α) : Traced β := ⟨f t.value, t.events⟩

/-- The same value after some events. -/
def after (events : List Event) (t : Traced α) : Traced α := ⟨t.value, events ++ t.events⟩

/-- What the value leads to, with the events of both. -/
def andThen (t : Traced α) (f : α → Traced β) : Traced β := (f t.value).after t.events

@[simp] theorem value_map (f : α → β) (t : Traced α) : (t.map f).value = f t.value := rfl
@[simp] theorem events_map (f : α → β) (t : Traced α) : (t.map f).events = t.events := rfl
@[simp] theorem value_after (es : List Event) (t : Traced α) : (t.after es).value = t.value := rfl
@[simp] theorem events_after (es : List Event) (t : Traced α) :
    (t.after es).events = es ++ t.events := rfl
@[simp] theorem value_andThen (t : Traced α) (f : α → Traced β) :
    (t.andThen f).value = (f t.value).value := rfl

/-- What happens on the way to the second value comes after what happened on the way to the
    first. -/
@[simp] theorem events_andThen (t : Traced α) (f : α → Traced β) :
    (t.andThen f).events = t.events ++ (f t.value).events := rfl

end Traced

end DiagramLint
