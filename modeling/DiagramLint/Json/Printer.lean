/-
  Writing JSON.

  * `Json.render`: the text of a value, without blanks and in ASCII: every other character is
    written by its code, one beyond U+FFFF by a pair of surrogates.
-/
import DiagramLint.Json.Basic
import DiagramLint.Text.Quoted

namespace DiagramLint.Json

open Text

/-- A code of sixteen bits behind `\u`. -/
def codeText (n : Nat) : List Char := '\\' :: 'u' :: hexDigits 4 n

/-- A character of a text between its quotes. -/
def charText (c : Char) : List Char :=
  if c = '"' ∨ c = '\\' then ['\\', c]
  else if 0x20 ≤ c.toNat ∧ c.toNat < 0x7F then [c]
  else if c.toNat < 0x10000 then codeText c.toNat
  else
    let n := c.toNat - 0x10000
    codeText (0xD800 + n / 0x400) ++ codeText (0xDC00 + n % 0x400)

/-- A text in quotes. -/
def quote (s : String) : String := String.ofList ('"' :: s.toList.flatMap charText ++ ['"'])

/-- A number; one that is not finite has a name. -/
def numberText : JsonNumber → String
  | .int n => toString n
  | .decimal mantissa exponent => toString mantissa ++ "e" ++ toString exponent
  | .infinity negative => if negative then "-Infinity" else "Infinity"
  | .nan => "NaN"

mutual

/-- The text of a value. -/
def render : Json → String
  | null => "null"
  | bool true => "true"
  | bool false => "false"
  | num n => numberText n
  | str s => quote s
  | arr items => "[" ++ ",".intercalate (renderItems items) ++ "]"
  | obj members => "\x7b" ++ ",".intercalate (renderMembers members) ++ "\x7d"

/-- The texts of the items of an array. -/
def renderItems : List Json → List String
  | [] => []
  | v :: vs => render v :: renderItems vs

/-- The texts of the members of an object. -/
def renderMembers : List (String × Json) → List String
  | [] => []
  | (name, v) :: ms => (quote name ++ ":" ++ render v) :: renderMembers ms

end

end DiagramLint.Json
