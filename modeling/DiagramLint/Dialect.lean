/-
  The dialects of diagrams.

  * `NameError`: a name is that of no dialect, or of no error kind;
  * `Dialect`: ten dialects, and `unknown` for a text that begins like none of them;
  * `Dialect.name` and `Dialect.read`: a dialect has one name, and reading accepts the names only
    (`Dialect.read_eq_ok_iff`);
  * `declarationKeywords`: the words that open a diagram.
-/
import DiagramLint.Text.Quoted

namespace DiagramLint

/-! ## Names -/

/-- A name stands where the name of a dialect, or of an error kind, belongs. -/
inductive NameError where
  | dialect (name : String)
  | errorKind (name : String)
  deriving Repr, DecidableEq

/-- The text for the user. -/
def NameError.message : NameError → String
  | .dialect name => Text.quoted name ++ " is not a valid Dialect"
  | .errorKind name => Text.quoted name ++ " is not a valid ErrorKind"

/-! ## Dialects -/

/-- What kind of diagram a text claims to be. -/
inductive Dialect where
  | flowchart
  | sequence
  | classes
  | states
  | entities
  | gantt
  | journey
  | pie
  | gitGraph
  | mindmap
  /-- None of the others. -/
  | unknown
  deriving Repr, DecidableEq

namespace Dialect

/-- The dialects in the order in which detection tries them, `unknown` last. -/
def all : List Dialect :=
  [flowchart, sequence, classes, states, entities, gantt, journey, pie, gitGraph, mindmap, unknown]

/-- The name of a dialect. -/
def name : Dialect → String
  | flowchart => "graph"
  | sequence => "sequence"
  | classes => "classDiagram"
  | states => "stateDiagram"
  | entities => "erDiagram"
  | gantt => "gantt"
  | journey => "journey"
  | pie => "pie"
  | gitGraph => "gitGraph"
  | mindmap => "mindmap"
  | unknown => "unknown"

/-- The dialect with a name. -/
def read (s : String) : Except NameError Dialect :=
  match all.find? (·.name == s) with
  | some d => .ok d
  | none => .error (.dialect s)

theorem mem_all (d : Dialect) : d ∈ all := by
  cases d <;> decide

theorem name_injective {d e : Dialect} (h : d.name = e.name) : d = e := by
  cases d <;> cases e <;> first | rfl | exact absurd h (by decide)

/-- **A dialect is read by its name and by nothing else.** -/
theorem read_eq_ok_iff {s : String} {d : Dialect} : read s = .ok d ↔ s = d.name := by
  unfold read
  constructor
  · intro h
    split at h
    · next e he =>
      injection h with h
      subst h
      have h := List.find?_some he
      exact (beq_iff_eq.1 h).symm
    · cases h
  · rintro rfl
    cases d <;> rfl

theorem read_eq_error_iff {s : String} :
    read s = .error (.dialect s) ↔ ∀ d : Dialect, s ≠ d.name := by
  constructor
  · rintro h d rfl
    rw [read_eq_ok_iff.2 rfl] at h
    cases h
  · intro h
    unfold read
    split
    · next e he =>
      have h' := List.find?_some he
      exact absurd (beq_iff_eq.1 h').symm (h e)
    · rfl

end Dialect

/-- The words that open a diagram, one dialect having two. -/
def declarationKeywords : List String :=
  ["graph", "flowchart", "sequenceDiagram", "classDiagram", "stateDiagram", "erDiagram", "gantt",
   "journey", "pie", "gitGraph", "mindmap"]

end DiagramLint
