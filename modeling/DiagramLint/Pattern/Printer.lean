/-
  The written form of a pattern.

  * `CharClass.source`: a class in brackets, a single character or a short name;
  * `Pattern.source`: the pattern as a regular expression, which a rule begins with `^`.
-/
import DiagramLint.Pattern.Basic

namespace DiagramLint

/-- The characters that have a meaning of their own outside brackets. -/
def specialChars : List Char := ".*|()[]\x7b\x7d\\+?^$".toList

/-- The characters that have a meaning of their own within brackets. -/
def bracketChars : List Char := "[]-\\".toList

/-- The character, behind a backslash if it is one of `special`. -/
def escapeAmong (special : List Char) (c : Char) : List Char :=
  if c ∈ special then ['\\', c] else [c]

/-- A word that stands for itself. -/
def wordSource (w : String) : List Char := w.toList.flatMap (escapeAmong specialChars)

/-- A member of a class within brackets. -/
def ClassItem.source : ClassItem → List Char
  | .char c => escapeAmong bracketChars c
  | .range first last => [first, '-', last]
  | .blank => ['\\', 's']

/-- A class. -/
def CharClass.source : CharClass → List Char
  | .dot => ['.']
  | .blank => ['\\', 's']
  | .only c => escapeAmong specialChars c
  | .among items => '[' :: items.flatMap ClassItem.source ++ [']']
  | .except items => '[' :: '^' :: items.flatMap ClassItem.source ++ [']']

/-- A pattern; the words of a choice stand in parentheses, and so does an optional part that is
    neither a choice nor one character. -/
def Pattern.source : Pattern → List Char
  | .text w => wordSource w
  | .anyOf ws => '(' :: ['|'].intercalate (ws.map wordSource) ++ [')']
  | .one cls => cls.source
  | .many cls => cls.source ++ ['*']
  | .many1 cls => cls.source ++ ['+']
  | .opt (.one cls) => cls.source ++ ['?']
  | .opt (.anyOf ws) => (Pattern.anyOf ws).source ++ ['?']
  | .opt p => '(' :: p.source ++ [')', '?']
  | .seq p q => p.source ++ q.source
  | .notAhead cls => '(' :: '?' :: '!' :: cls.source ++ [')']
  | .lineEnd => ['$']

end DiagramLint
