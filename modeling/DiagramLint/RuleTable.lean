/-
  Rules for lines, and the tables that make up the grammar of a dialect.

  * `Rule`: a named test for a whole line, with the text that it is shown by;
  * `Rule.ofPattern`: the rule that a line begins as a pattern says;
  * `RuleTable`: the rule for the declaration, the shapes of the lines after it and the markers of
    sections, with the texts for the user;
  * `Rule.render` and `RuleTable.render`: how a rule and a table are shown.
-/
import DiagramLint.Pattern.Matcher
import DiagramLint.Pattern.Printer
import DiagramLint.Dialect

namespace DiagramLint

open Text

/-! ## Rules -/

/-- A named description of a line, which may be any test. -/
structure Rule where
  name : String
  /-- The description as it is shown. -/
  source : String
  /-- The line is as described. -/
  accepts : Line → Bool

/-- The rule that a line begins as the pattern says, shown as a regular expression. -/
def Rule.ofPattern (name : String) (p : Pattern) (f : Folding) : Rule where
  name := name
  source := String.ofList ('^' :: p.source)
  accepts := p.starts f

/-- A rule as it is shown. -/
def Rule.render (r : Rule) : String :=
  "LineRule(" ++ quoted r.name ++ ", " ++ quoted r.source ++ ")"

/-! ## Tables -/

/-- The grammar of a dialect.  Every meaningful line is a declaration, has one of the shapes or is
    one of the markers. -/
structure RuleTable where
  dialect : Dialect
  /-- The line that opens the diagram. -/
  declaration : Rule
  /-- The shapes of the lines after the declaration. -/
  shapes : List Rule
  /-- The lines that open and close sections. -/
  markers : List Rule := []
  /-- The name of a shape that must occur. -/
  required : Option String := none
  /-- The advice for a line that has none of the shapes. -/
  hint : String
  /-- The declaration that is suggested where one is missing. -/
  declarationToken : String
  /-- What is said when the required shape does not occur. -/
  missingMessage : Option String := none
  /-- The advice when the required shape does not occur. -/
  missingHint : Option String := none

namespace RuleTable

/-- The name of the table in messages. -/
def label (t : RuleTable) : String := t.dialect.name

/-- The rules for the lines after the declaration, shapes first. -/
def bodyRules (t : RuleTable) : List Rule := t.shapes ++ t.markers

/-- The rules of a table, the declaration first. -/
def rules (t : RuleTable) : List Rule := t.declaration :: t.bodyRules

/-- The names of the rules for the lines after the declaration. -/
def ruleNames (t : RuleTable) : List String := t.bodyRules.map (·.name)

/-- The rule of a table with a name. -/
def rule? (t : RuleTable) (name : String) : Option Rule := t.rules.find? (·.name == name)

/-- A table as it is shown. -/
def render (t : RuleTable) : String :=
  "RuleTable(" ++ quoted t.label ++ ", rules=[" ++
    ", ".intercalate (t.ruleNames.map quoted) ++ "])"

end RuleTable

end DiagramLint
