/-
  The written form of answers.

  Records are written as objects by the names of their fields in one of the two styles.  A part that
  is not there is null.
-/
import DiagramLint.Engine
import DiagramLint.Form.Record

namespace DiagramLint

namespace Json

/-- The name of a kind, or null. -/
def ofKind : Option ErrorKind → Json := ofOption fun k => k.name

/-- A number, or null. -/
def ofInt? : Option Int → Json := ofOption fun n => n

/-- A text, or null. -/
def ofText? : Option String → Json := ofOption str

/-- The number of a line, or null. -/
def ofLine? : Option LineNumber → Json := ofOption fun n => n.val

/-- The names of dialects. -/
def ofDialects (ds : List Dialect) : Json := arr (ds.map fun d => d.name)

/-- Texts. -/
def ofTexts (ss : List String) : Json := arr (ss.map str)

end Json

/-- A finding, by its names in snake case. -/
def Finding.toJson (f : Finding) : Json :=
  .obj [("is_valid", f.isValid), ("error", .ofText? f.error), ("type", .ofKind f.kind),
    ("line", .ofInt? f.line), ("suggestion", .ofText? f.hint)]

/-- The members of a diagnostic. -/
def Diagnostic.members (s : NameStyle) (d : Diagnostic) : List (String × Json) :=
  [(FieldName.isValid.styled s, d.isValid),
   (FieldName.error.styled s, .ofText? d.error),
   (FieldName.kind.styled s, .ofKind d.kind),
   (FieldName.line.styled s, .ofLine? d.line),
   (FieldName.hint.styled s, .ofText? d.hint),
   (FieldName.diagramType.styled s, d.diagramType),
   (FieldName.elementCount.styled s, d.elementCount)]

/-- A diagnostic. -/
def Diagnostic.toJson (s : NameStyle) (d : Diagnostic) : Json := .obj (d.members s)

/-- The members of a diagnostic of a batch. -/
def BatchDiagnostic.members (s : NameStyle) (d : BatchDiagnostic) : List (String × Json) :=
  d.toDiagnostic.members s ++ [(FieldName.index.styled s, (d.index : Json))]

/-- A diagnostic of a batch. -/
def BatchDiagnostic.toJson (s : NameStyle) (d : BatchDiagnostic) : Json := .obj (d.members s)

/-- The members of a diagnostic of an edit. -/
def RealtimeDiagnostic.members (s : NameStyle) (d : RealtimeDiagnostic) : List (String × Json) :=
  d.toDiagnostic.members s ++
    [(FieldName.changeType.styled s, .str d.change.name),
     (FieldName.lineNumber.styled s, .ofInt? d.lineNumber),
     (FieldName.realtime.styled s, .bool d.realtime),
     (FieldName.message.styled s, .str d.message)]

/-- A diagnostic of an edit. -/
def RealtimeDiagnostic.toJson (s : NameStyle) (d : RealtimeDiagnostic) : Json := .obj (d.members s)

/-- A snapshot of an engine. -/
def Stats.toJson (s : Stats) : Json :=
  .obj [("isInitialized", s.isInitialized), ("supportedTypes", s.supportedTypes),
    ("dialects", .ofDialects s.dialects), ("validationType", s.method)]

/-- A problem of a field. -/
def FieldError.toJson (e : FieldError) : Json :=
  .obj [("type", e.problem.tag), ("loc", .ofTexts e.path), ("msg", e.problem.message)]

/-- An event; `cause` says what kind of failure it reports, if it reports one. -/
def Event.toJson (cause : List (String × Json)) (e : Event) : Json :=
  .obj ([("event", .str e.name), ("log_level", .str e.severity.name)] ++ e.details ++ cause)

end DiagramLint
