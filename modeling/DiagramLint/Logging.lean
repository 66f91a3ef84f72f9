/-
  Settings of the log.

  * `LogSettings.threshold`: events below this level are not logged.  The level is set by a name in
    any case, and what names no level stands for `INFO`;
  * `LogSettings.renderer`: how events are written.
-/
namespace DiagramLint

/-- How events are written. -/
inductive Renderer where
  /-- For a reader. -/
  | console
  /-- For a program. -/
  | json
  deriving Repr, DecidableEq

/-- The names of the levels. -/
def levelNames : List (String × Nat) :=
  [("CRITICAL", 50), ("FATAL", 50), ("ERROR", 40), ("WARNING", 30), ("WARN", 30), ("INFO", 20),
   ("DEBUG", 10), ("NOTSET", 0)]

/-- The settings of the log. -/
structure LogSettings where
  level : String := "info"
  debug : Bool := false
  deriving Repr, DecidableEq

/-- The capital for a letter, as far as the names of levels need it: U+0131 and U+017F have capitals
    in ASCII, and no other letter outside ASCII has one that is part of a name. -/
def capital (c : Char) : Char :=
  if c = '\u0131' then 'I' else if c = '\u017F' then 'S' else c.toUpper

/-- The level from which on events are logged. -/
def LogSettings.threshold (s : LogSettings) : Nat :=
  let name := s.level.toList.map capital
  match levelNames.find? (·.1.toList == name) with
  | some (_, n) => n
  | none => 20

/-- How events are written. -/
def LogSettings.renderer (s : LogSettings) : Renderer := if s.debug then .console else .json

end DiagramLint
