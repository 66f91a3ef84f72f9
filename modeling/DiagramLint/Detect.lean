/-
  Which dialect a diagram claims to be.

  * `detectAmong ts ls`: the dialect of the first table whose declaration the first meaningful line
    is, in lower case; `unknown` if there is no such line or table;
  * `detect`: the same for the ten grammars.
-/
import DiagramLint.Grammar
import DiagramLint.Meaningful
import DiagramLint.Text.Lower

namespace DiagramLint

open Text

/-- The dialect of the first table whose declaration the line is. -/
def declared (ts : List RuleTable) (l : Line) : Dialect :=
  match ts.find? (·.declaration.accepts l) with
  | some t => t.dialect
  | none => .unknown

/-- The dialect that the first meaningful line declares, in lower case. -/
def detectAmong (ts : List RuleTable) (ls : List Line) : Dialect :=
  match ls.find? isMeaningful with
  | some l => declared ts (lowerCase (trim l))
  | none => .unknown

/-- The dialect that a diagram claims to be. -/
def detect (ls : List Line) : Dialect := detectAmong Grammar.tables ls

/-- Detection looks no further than the first line that counts. -/
theorem detect_append_of_exists {ls : List Line} (h : ∃ l ∈ ls, isMeaningful l = true)
    (ms : List Line) : detect (ls ++ ms) = detect ls := by
  obtain ⟨l, hl⟩ := Option.isSome_iff_exists.1 (List.find?_isSome.2 h)
  unfold detect detectAmong
  rw [List.find?_append, hl, Option.some_or]

end DiagramLint
