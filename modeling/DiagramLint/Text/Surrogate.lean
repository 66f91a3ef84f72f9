/-
  Texts with surrogates that stand alone.

  A text that comes from outside is a list of codes.  A code is a character, or else a surrogate
  without its other half, which no text of characters holds.  A text with such surrogates is
  therefore read twice, each time with other characters of private use in their places: where its
  two readings agree, it holds none.

  * `Code`: a character or a surrogate that stands alone;
  * `Reading` and `Reading.text`: the two readings of a text;
  * `firstRun?`: the first surrogates that two readings of a text show.

  `firstRun?_self`: what is read alike shows none.  `firstRun?_chars_eq_none_iff`: the two readings
  of a text show all its surrogates.
-/
import DiagramLint.Text.Quoted

namespace DiagramLint

/-! ## Codes -/

/-- One of the surrogates, counted from U+D800. -/
abbrev Surrogate := Fin 0x800

/-- The code point of a surrogate. -/
def Surrogate.code (s : Surrogate) : Nat := 0xD800 + s.val

/-- A code of a text. -/
inductive Code where
  | char (c : Char)
  /-- A surrogate that stands alone. -/
  | lone (s : Surrogate)
  deriving Repr, DecidableEq

/-- A text, code by code. -/
abbrev Codes := List Code

namespace Code

/-- The code with a code point.  The surrogates begin at a multiple of their number. -/
def ofNat (n : Nat) : Code :=
  if n.isValidChar then char (Char.ofNat n) else lone (Fin.ofNat 0x800 n)

/-- The code is a character. -/
def isChar : Code → Bool
  | char _ => true
  | lone _ => false

/-- The code is a digit. -/
def isDigit : Code → Bool
  | char c => c.isDigit
  | lone _ => false

/-- The codes of a text of characters. -/
def ofText (s : String) : Codes := s.toList.map char

theorem isChar_of_mem_ofText {s : String} {c : Code} (h : c ∈ ofText s) : c.isChar = true := by
  obtain ⟨d, -, rfl⟩ := List.mem_map.1 h
  rfl

end Code

/-! ## Readings -/

/-- Which characters stand for surrogates. -/
inductive Reading where
  | first
  | second
  deriving Repr, DecidableEq

namespace Reading

/-- The character that stands for a surrogate. -/
def standIn : Reading → Surrogate → Char
  | first, s => Char.ofNat (0xF0000 + s.val)
  | second, s => Char.ofNat (0x100000 + s.val)

/-- The character that a code is read as. -/
def char (rd : Reading) : Code → Char
  | .char c => c
  | .lone s => rd.standIn s

/-- The characters of a text. -/
def chars (rd : Reading) (cs : Codes) : List Char := cs.map rd.char

/-- A text in one of its readings. -/
def text (rd : Reading) (cs : Codes) : String := String.ofList (rd.chars cs)

variable {rd : Reading} {cs : Codes}

theorem toNat_standIn_first (s : Surrogate) : (first.standIn s).toNat = 0xF0000 + s.val := by
  have hv : Nat.isValidChar (0xF0000 + s.val) := .inr ⟨by omega, by omega⟩
  rw [standIn, Text.toNat_ofNat hv]

theorem toNat_standIn_second (s : Surrogate) : (second.standIn s).toNat = 0x100000 + s.val := by
  have hv : Nat.isValidChar (0x100000 + s.val) := .inr ⟨by omega, by omega⟩
  rw [standIn, Text.toNat_ofNat hv]

/-- No character stands for a surrogate in both readings. -/
theorem standIn_first_ne_second (s s' : Surrogate) : first.standIn s ≠ second.standIn s' := by
  intro h
  have hn := congrArg Char.toNat h
  rw [toNat_standIn_first, toNat_standIn_second] at hn
  omega

theorem chars_ofText (rd : Reading) (s : String) : rd.chars (Code.ofText s) = s.toList := by
  rw [chars, Code.ofText, List.map_map]
  exact List.map_id _

theorem text_ofText (rd : Reading) (s : String) : rd.text (Code.ofText s) = s := by
  rw [text, chars_ofText, String.ofList_toList]

/-- A text without surrogates is read alike. -/
theorem chars_of_isChar (h : ∀ c ∈ cs, c.isChar = true) : rd.chars cs = first.chars cs := by
  refine List.map_congr_left fun c hc => ?_
  cases c with
  | char => rfl
  | lone => exact absurd (h _ hc) (by simp [Code.isChar])

end Reading

/-! ## What two readings show -/

namespace Text

/-- The surrogate that two characters stand for, one in each reading. -/
def surrogate? (c d : Char) : Option Surrogate :=
  let s := Fin.ofNat 0x800 c.toNat
  if c = Reading.first.standIn s ∧ d = Reading.second.standIn s then some s else none

/-- How many surrogates two readings of a text show at its beginning, one behind the other. -/
def runLength : List Char → List Char → Nat
  | c :: v, d :: w => if (surrogate? c d).isSome then runLength v w + 1 else 0
  | _, _ => 0

/-- Surrogates that stand side by side in a text. -/
structure Run where
  /-- How many characters stand before them. -/
  place : Nat
  first : Surrogate
  /-- How many stand behind the first one. -/
  more : Nat
  deriving Repr, DecidableEq

/-- The first surrogates that two readings of a text show. -/
def firstRun? : List Char → List Char → Option Run
  | c :: v, d :: w => match surrogate? c d with
    | some s => some ⟨0, s, runLength v w⟩
    | none => (firstRun? v w).map fun r => { r with place := r.place + 1 }
  | _, _ => none

/-- Why a text with surrogates cannot be encoded. -/
def Run.message (r : Run) : String :=
  let what := match r.more with
    | 0 => " '\\u" ++ String.ofList (hexDigits 4 r.first.code) ++ "' in position " ++ toString r.place
    | n => "s in position " ++ toString r.place ++ "-" ++ toString (r.place + n)
  "'utf-8' codec can't encode character" ++ what ++ ": surrogates not allowed"

variable {cs : Codes}

theorem surrogate?_self (c : Char) : surrogate? c c = none := by
  rw [surrogate?, if_neg]
  rintro ⟨h, h'⟩
  exact Reading.standIn_first_ne_second _ _ (h.symm.trans h')

theorem surrogate?_standIn (s : Surrogate) :
    surrogate? (Reading.first.standIn s) (Reading.second.standIn s) = some s := by
  have hs : Fin.ofNat 0x800 (Reading.first.standIn s).toNat = s := by
    rw [Reading.toNat_standIn_first]
    exact Fin.ext (show (0xF0000 + s.val) % 0x800 = s.val by omega)
  simp only [surrogate?, hs, and_self, if_true]

/-- What is read alike shows no surrogate. -/
theorem firstRun?_self (v : List Char) : firstRun? v v = none := by
  induction v with
  | nil => rfl
  | cons c v ih => simp [firstRun?, surrogate?_self, ih]

/-- **The two readings of a text show its surrogates.** -/
theorem firstRun?_chars_eq_none_iff :
    firstRun? (Reading.first.chars cs) (Reading.second.chars cs) = none ↔
      ∀ c ∈ cs, c.isChar = true := by
  induction cs with
  | nil => simp [Reading.chars, firstRun?]
  | cons c cs ih =>
    simp only [Reading.chars, List.map_cons, firstRun?] at ih ⊢
    cases c with
    | char c => simp [Reading.char, surrogate?_self, ih, Code.isChar]
    | lone s => simp [Reading.char, surrogate?_standIn, Code.isChar]

end Text

end DiagramLint
