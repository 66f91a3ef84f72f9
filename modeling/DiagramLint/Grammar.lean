/-
  The grammars of the ten dialects.

  Each grammar is a table of line shapes.  The shapes are wide: a diagram passes if every line looks
  right by itself, and nothing relates one line to another.

  * `Grammar.tables`: the tables in the order in which detection tries them;
  * `Grammar.table?`: the table of a dialect, which `unknown` does not have.

  Words consist of the letters and digits of ASCII and the underscore; blanks are those of Unicode.
-/
import DiagramLint.RuleTable

namespace DiagramLint.Grammar

/-! ## Parts of patterns -/

/-- The members of the class of word characters. -/
def wordItems : List ClassItem := [.range 'A' 'Z', .range 'a' 'z', .range '0' '9', .char '_']

/-- The word characters. -/
def wordChar : CharClass := .among wordItems

/-- The digits. -/
def digit : CharClass := .among [.range '0' '9']

/-- Blanks, none among them. -/
def blanks : Pattern := .many .blank

/-- A word. -/
def word : Pattern := .many1 wordChar

/-- Whatever the line still holds. -/
def rest : Pattern := .many .dot ++ .lineEnd

/-- Blanks to the end of the line. -/
def finish : Pattern := blanks ++ .lineEnd

/-- A line of its own for one word. -/
def alone (w : String) : Pattern := .text w ++ finish

/-- A line that one of the words opens. -/
def keywordLine (words : List String) : Pattern :=
  blanks ++ .anyOf words ++ .notAhead wordChar ++ rest

/-- Two words with one of the connectors between them. -/
def connection (connectors : List String) : Pattern :=
  blanks ++ word ++ blanks ++ .anyOf connectors ++ blanks ++ word ++ rest

/-- A rule for the line that opens a diagram. -/
def declaration (p : Pattern) : Rule := .ofPattern "declaration" p .caseless

/-- A rule that disregards case. -/
def shape (name : String) (p : Pattern) : Rule := .ofPattern name p .caseless

/-- A rule for which case counts. -/
def exactShape (name : String) (p : Pattern) : Rule := .ofPattern name p .exact

/-! ## Flowcharts -/

/-- The characters of nodes, edges and labels. -/
def statementItems : List ClassItem :=
  wordItems ++ [.blank] ++ ("[]()\x7b\x7d<>\"':|+-*/\\.,->".toList.map .char)

def flowchart : RuleTable where
  dialect := .flowchart
  declaration := declaration <|
    .anyOf ["graph", "flowchart"] ++ blanks ++ .opt (.anyOf ["TB", "TD", "BT", "RL", "LR"]) ++ finish
  shapes := [exactShape "statement" (blanks ++ .many1 (.among statementItems) ++ finish)]
  markers :=
    [exactShape "subgraph_open" (.text "subgraph"),
     exactShape "subgraph_close" (alone "end")]
  hint := "Check graph syntax. Valid formats: A[Text], A --> B, subgraph Title"
  declarationToken := "graph TD"

/-! ## Sequence diagrams -/

def sequence : RuleTable where
  dialect := .sequence
  declaration := declaration (alone "sequenceDiagram")
  shapes :=
    [shape "keyword" (keywordLine ["participant", "loop", "alt", "else", "end", "note", "actor"]),
     shape "message" (connection ["->>", "-->>", "-->", "--->", "->", "-->", "x", "--x"])]
  hint := "Check sequence diagram syntax. Valid formats: A->>B: Message, participant A as Alice"
  declarationToken := "sequenceDiagram"

/-! ## Class diagrams -/

def classes : RuleTable where
  dialect := .classes
  declaration := declaration (alone "classDiagram")
  shapes :=
    [shape "declaration_block" (keywordLine ["class", "interface", "enum"]),
     shape "relation" (connection ["--", "...", "<|--", "*--", "o--", "|..."]),
     shape "member" (blanks ++ .opt (.one (.among ("+-#~".toList.map .char))) ++ blanks ++ word ++
       .opt (.text "()") ++ blanks ++ .one (.among [.char ':', .char '{']) ++ rest)]
  hint := "Check class diagram syntax. Valid formats: class ClassName, A <|-- B, name : Type"
  declarationToken := "classDiagram"

/-! ## State diagrams -/

def states : RuleTable where
  dialect := .states
  declaration := declaration (.text "stateDiagram" ++ .opt (.text "-v2") ++ finish)
  shapes :=
    [shape "entry" (blanks ++ .many (.only '[') ++ .many (.only ']') ++ blanks ++ .text "-->" ++
       blanks ++ word ++ rest),
     shape "transition" (blanks ++ word ++ blanks ++ .text "-->" ++ blanks ++ .many (.only '[') ++
       .many (.only ']') ++ rest),
     shape "initial" (blanks ++ .text "[*]" ++ blanks ++ .text "-->" ++ blanks ++ word ++ rest),
     shape "final" (blanks ++ word ++ blanks ++ .text "-->" ++ blanks ++ .text "[*]" ++ rest)]
  hint := "Check state diagram syntax. Valid formats: [*] --> State, State1 --> State2"
  declarationToken := "stateDiagram-v2"

/-! ## Entity-relationship diagrams -/

def entities : RuleTable where
  dialect := .entities
  declaration := declaration (alone "erDiagram")
  shapes :=
    [shape "entity_open" (blanks ++ word ++ blanks ++ .text "\x7b" ++ rest),
     shape "attribute" (blanks ++ word ++ blanks ++ .text ":" ++ blanks ++ word ++ rest),
     shape "relationship" (connection
       ["||", "\x7bo", "o|", "\x7do", "o\x7b", "|\x7d", "\x7d|", "\x7b\x7b"]),
     shape "entity_close" (blanks ++ .text "\x7d" ++ finish)]
  hint := "Check ER diagram syntax. Valid formats: ENTITY \x7b, name : type, \x7d"
  declarationToken := "erDiagram"

/-! ## Gantt charts -/

def gantt : RuleTable where
  dialect := .gantt
  declaration := declaration (alone "gantt")
  shapes :=
    [shape "directive" (keywordLine ["title", "dateFormat", "section"]),
     shape "task" (blanks ++ word ++ blanks ++ .text ":" ++ blanks ++ rest)]
  hint := "Check Gantt chart syntax. Valid formats: title Text, section Name, " ++
    "Task :id, date, duration"
  declarationToken := "gantt"

/-! ## User journeys -/

def journey : RuleTable where
  dialect := .journey
  declaration := declaration (alone "journey")
  shapes :=
    [shape "directive" (keywordLine ["title", "section"]),
     shape "task" (blanks ++ .many1 (.except [.char ':']) ++ .text ":" ++ blanks ++ .many1 digit ++
       blanks ++ .text ":" ++ blanks ++ word ++ rest)]
  hint := "Check journey diagram syntax. Valid formats: title Text, section Name, " ++
    "Task: score: User"
  declarationToken := "journey"

/-! ## Pie charts -/

def pie : RuleTable where
  dialect := .pie
  declaration := declaration <|
    .text "pie" ++ blanks ++ .opt (.text "title" ++ .many1 .blank ++ .many1 .dot) ++ finish
  shapes :=
    [shape "data" (blanks ++ .text "\"" ++ .many1 (.except [.char '"']) ++ .text "\"" ++ blanks ++
       .text ":" ++ blanks ++ .many1 digit ++ finish)]
  required := some "data"
  hint := "Check pie chart syntax. Valid formats: \"Label\" : value"
  declarationToken := "pie"
  missingMessage := some "No data found in pie chart"
  missingHint := some "Add data in format: \"Label\" : value"

/-! ## Git graphs -/

def gitGraph : RuleTable where
  dialect := .gitGraph
  declaration := declaration (alone "gitGraph")
  shapes :=
    [shape "command" (keywordLine ["commit", "branch", "checkout", "merge", "cherry-pick"])]
  hint := "Check Git graph syntax. Valid formats: commit, branch name, checkout name, merge name"
  declarationToken := "gitGraph"

/-! ## Mind maps -/

def mindmap : RuleTable where
  dialect := .mindmap
  declaration := declaration (alone "mindmap")
  shapes := [shape "node" (blanks ++ .one (.among ("+-*".toList.map .char)) ++ rest)]
  hint := "Check mind map syntax. Use indentation and +, -, or * for hierarchy"
  declarationToken := "mindmap"

/-! ## All grammars -/

/-- The tables in the order in which detection tries them. -/
def tables : List RuleTable :=
  [flowchart, sequence, classes, states, entities, gantt, journey, pie, gitGraph, mindmap]

/-- The table of a dialect. -/
def table? : Dialect → Option RuleTable
  | .flowchart => some flowchart
  | .sequence => some sequence
  | .classes => some classes
  | .states => some states
  | .entities => some entities
  | .gantt => some gantt
  | .journey => some journey
  | .pie => some pie
  | .gitGraph => some gitGraph
  | .mindmap => some mindmap
  | .unknown => none

/-- **The table of a dialect is the listed one that describes it.** -/
theorem table?_eq_some_iff {d : Dialect} {t : RuleTable} :
    table? d = some t ↔ t ∈ tables ∧ t.dialect = d := by
  constructor
  · intro h
    cases d <;> cases h <;> exact ⟨by simp [tables], rfl⟩
  · rintro ⟨ht, rfl⟩
    simp only [tables, List.mem_cons, List.not_mem_nil, or_false] at ht
    rcases ht with rfl | rfl | rfl | rfl | rfl | rfl | rfl | rfl | rfl | rfl <;> rfl

/-- The rule that is named by a dialect, a point and its own name. -/
def rule? (reference : String) : Option Rule := do
  let (label, name) := (reference.toList.takeWhile (· != '.'), reference.toList.dropWhile (· != '.'))
  let t ← tables.find? (·.label.toList == label)
  t.rule? (String.ofList (name.drop 1))

end DiagramLint.Grammar
