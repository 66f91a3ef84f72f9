/-
  Values in a report.

  A report of an error shows the value at fault.  It leaves out members with a reserved name, and of
  the members of one name all but the last, and it can show the others only if their numbers are
  finite.

  * `Json.shown`: what a report shows of a value;
  * `JsonNumber.isFinite`: a number that is finite, also when it is read as a double;
  * `Json.isFinite`: all numbers of a value are finite.
-/
import DiagramLint.Json.Double

namespace DiagramLint

/-- The number is finite; one with a fraction or an exponent is so when its double is. -/
def JsonNumber.isFinite : JsonNumber → Bool
  | int _ => true
  | decimal mantissa exponent => Double.ofDecimal mantissa exponent != .infinite
  | infinity _ | nan => false

namespace Json

/-- The beginning of the names that are reserved: members of such a name are not shown. -/
def reservedMark : List Char := ['_', 's', 'a']

/-- A report leaves out a member in front of the others: it has a reserved name, or another member
    of its name follows. -/
def isLeftOut (name : String) (others : List (String × Json)) : Bool :=
  reservedMark.isPrefixOf name.toList || others.any (·.1 == name)

mutual

/-- What a report shows of a value. -/
def shown : Json → Json
  | arr items => arr (shownItems items)
  | obj members => obj (shownMembers members)
  | v => v

/-- The same for the items of an array. -/
def shownItems : List Json → List Json
  | [] => []
  | v :: vs => v.shown :: shownItems vs

/-- The same for the members of an object. -/
def shownMembers : List (String × Json) → List (String × Json)
  | [] => []
  | (name, v) :: ms =>
    if isLeftOut name ms then shownMembers ms else (name, v.shown) :: shownMembers ms

end

mutual

/-- All numbers of the value are finite. -/
def isFinite : Json → Bool
  | null | bool _ | str _ => true
  | num n => n.isFinite
  | arr items => areFinite items
  | obj members => hasFiniteMembers members

/-- The same for the items of an array. -/
def areFinite : List Json → Bool
  | [] => true
  | v :: vs => v.isFinite && areFinite vs

/-- The same for the members of an object. -/
def hasFiniteMembers : List (String × Json) → Bool
  | [] => true
  | (_, v) :: ms => v.isFinite && hasFiniteMembers ms

end

end Json

end DiagramLint
