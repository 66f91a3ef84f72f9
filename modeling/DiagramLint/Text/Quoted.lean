/-
  Quoting a text for a message.

  * `hexDigits`: a number with a fixed count of hexadecimal digits;
  * `quoteMark`: a text stands in single quotes, unless it holds a single quote and no double one;
  * `escape`: a character as it stands between quotes;
  * `quoted`: the quoted text.
-/
import DiagramLint.Text.Printable

namespace DiagramLint.Text

/-! ## Hexadecimal digits -/

/-- The small hexadecimal digit of a number below 16. -/
def hexDigit (n : Nat) : Char := Char.ofNat (if n < 10 then 48 + n else 87 + n)

/-- The last `width` hexadecimal digits of `n`. -/
def hexDigits : Nat → Nat → List Char
  | 0, _ => []
  | width + 1, n => hexDigits width (n / 16) ++ [hexDigit (n % 16)]

/-! ## Quoting -/

/-- The mark that a text is quoted with. -/
def quoteMark (s : List Char) : Char := if '\'' ∈ s ∧ '"' ∉ s then '"' else '\''

/-- A character between two marks `mark`: the mark and the backslash follow a backslash, newline,
    return and tab have a letter each, other characters that cannot be shown have their code point,
    and all else stands as it is. -/
def escape (mark c : Char) : List Char :=
  if c = mark ∨ c = '\\' then ['\\', c]
  else if c = '\n' then ['\\', 'n']
  else if c = '\r' then ['\\', 'r']
  else if c = '\t' then ['\\', 't']
  else if isPrintable c then [c]
  else if c.toNat < 0x100 then '\\' :: 'x' :: hexDigits 2 c.toNat
  else if c.toNat < 0x10000 then '\\' :: 'u' :: hexDigits 4 c.toNat
  else '\\' :: 'U' :: hexDigits 8 c.toNat

/-- A text in quotes. -/
def quoted (s : String) : String :=
  let mark := quoteMark s.toList
  String.ofList (mark :: s.toList.flatMap (escape mark) ++ [mark])

end DiagramLint.Text
