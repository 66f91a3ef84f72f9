/-
  The encoding of a text of JSON.

  A text of JSON comes in UTF-8, UTF-16 or UTF-32.  It begins with two characters of ASCII, unless
  it is a single one, so that the zeros among its first bytes tell which it is.

  * `Encoding.ofBytes`: the encoding that the first bytes tell;
  * `Encoding.decode`: the codes that bytes encode, if there is no byte too many; surrogates that
    stand alone are codes too;
  * `Json.readEncoded`: the value that a text holds whose bytes may be meant in another encoding
    than UTF-8.
-/
import DiagramLint.Json.Reader

namespace DiagramLint

/-- How characters are written in bytes. -/
inductive Encoding where
  | utf8
  | utf16 (bigEndian : Bool)
  | utf32 (bigEndian : Bool)
  deriving Repr, DecidableEq

namespace Encoding

/-- The encoding that the first bytes of a text tell. -/
def ofBytes : List Nat → Encoding
  | [0, _] => utf16 true
  | [_, 0] => utf16 false
  | 0 :: b :: _ :: _ :: _ => if b = 0 then utf32 true else utf16 true
  | _ :: 0 :: c :: d :: _ => if c = 0 ∧ d = 0 then utf32 false else utf16 false
  | _ => utf8

/-- Pairs of digits to the given base, each as one number; none if a digit is left over. -/
def joinPairs (base : Nat) (bigEndian : Bool) : List Nat → Option (List Nat)
  | [] => some []
  | [_] => none
  | a :: b :: s =>
    (joinPairs base bigEndian s).map ((if bigEndian then a * base + b else b * base + a) :: ·)

/-- The codes that bytes encode, where the encoding is not UTF-8. -/
def decode : Encoding → List Nat → Option Codes
  | utf8, _ => none
  | utf16 bigEndian, bytes =>
    (joinPairs 0x100 bigEndian bytes).map fun units => Json.joinUnits (units.map .unit)
  | utf32 bigEndian, bytes => do
    let codes ← joinPairs 0x10000 bigEndian (← joinPairs 0x100 bigEndian bytes)
    if codes.all (· < 0x110000) then some (codes.map .ofNat) else none

end Encoding

namespace Json

/-- The bytes of a text in UTF-8. -/
def bytes (text : String) : List Nat :=
  (text.toList.flatMap String.utf8EncodeChar).map UInt8.toNat

/-- The value that a text holds, in the encoding that its bytes tell. -/
def readEncoded (text : String) : Except ReadError (Json Codes) :=
  match Encoding.ofBytes (bytes text) with
  | .utf8 => parse (Code.ofText text)
  | e => match e.decode (bytes text) with
    | some cs => parse cs
    | none => .error .undecodable

end Json

end DiagramLint
