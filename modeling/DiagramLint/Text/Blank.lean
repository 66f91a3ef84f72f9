/-
  Blank characters, lines and trimming.

  * `inRanges rs c`: the code point of `c` lies in one of the ranges `rs`, ends included;
  * `isBlank`: the white space of Unicode, with the four separators U+001C to U+001F;
  * `isEdge`: what trimming removes, the blanks and the byte order mark U+FEFF;
  * `lines`: a text cut at its newlines, and only there;
  * `trim`: a line without the edge characters at its two ends.

  `trim_trim`: a trimmed line is its own trimmed form.  `trim_eq_nil_iff`: nothing is left of a line
  exactly when it consists of edge characters.
-/
import DiagramLint.Text.Strip

namespace DiagramLint.Text

/-- A line of a diagram: its characters, without the newline that ends it. -/
abbrev Line := List Char

/-! ## Code points -/

theorem toNat_ofNat {n : Nat} (h : n.isValidChar) : (Char.ofNat n).toNat = n := by
  rw [Char.ofNat, dif_pos h]
  rfl

/-- The code point of `c` lies in one of the ranges `rs`, ends included. -/
def inRanges (rs : List (Nat × Nat)) (c : Char) : Bool :=
  rs.any fun r => r.1 ≤ c.toNat && c.toNat ≤ r.2

theorem inRanges_iff {rs : List (Nat × Nat)} {c : Char} :
    inRanges rs c = true ↔ ∃ r ∈ rs, r.1 ≤ c.toNat ∧ c.toNat ≤ r.2 := by
  simp [inRanges]

/-! ## Blanks -/

/-- The code points of the blank characters. -/
def blankRanges : List (Nat × Nat) :=
  [(0x09, 0x0D), (0x1C, 0x20), (0x85, 0x85), (0xA0, 0xA0), (0x1680, 0x1680), (0x2000, 0x200A),
   (0x2028, 0x2029), (0x202F, 0x202F), (0x205F, 0x205F), (0x3000, 0x3000)]

/-- White space, in the sense in which it separates the words of a line. -/
def isBlank (c : Char) : Bool := inRanges blankRanges c

/-- What may surround a line without belonging to it: blanks and byte order marks. -/
def isEdge (c : Char) : Bool := isBlank c || c == '\uFEFF'

/-! ## Lines -/

/-- The lines of a text, which end at newlines and at no other character. -/
def lines (text : String) : List Line := text.toList.splitOn '\n'

/-! ## Trimming -/

/-- A line without the edge characters at its two ends. -/
def trim (l : Line) : Line := strip isEdge l

theorem trim_eq_nil_iff {l : Line} : trim l = [] ↔ ∀ c ∈ l, isEdge c = true :=
  strip_eq_nil_iff isEdge

/-- Edge characters around a line do not show when it is trimmed. -/
theorem trim_append_append {a b : Line} (ha : ∀ c ∈ a, isEdge c = true)
    (hb : ∀ c ∈ b, isEdge c = true) (l : Line) : trim (a ++ l ++ b) = trim l :=
  strip_append_append isEdge ha hb l

theorem isEdge_eq_false_of_mem_head?_trim {c : Char} {l : Line} (h : c ∈ (trim l).head?) :
    isEdge c = false :=
  eq_false_of_mem_head?_strip isEdge h

theorem isEdge_eq_false_of_mem_getLast?_trim {c : Char} {l : Line} (h : c ∈ (trim l).getLast?) :
    isEdge c = false :=
  eq_false_of_mem_getLast?_strip isEdge h

theorem trim_eq_self {l : Line} (hhead : ∀ c ∈ l.head?, isEdge c = false)
    (hlast : ∀ c ∈ l.getLast?, isEdge c = false) : trim l = l := by
  rw [trim, strip_eq_stripEnd isEdge hhead, stripEnd_eq_self isEdge hlast]

@[simp] theorem trim_trim (l : Line) : trim (trim l) = trim l := strip_strip isEdge l

end DiagramLint.Text
