/-
  Patterns for the lines of a diagram.

  A pattern describes how a line begins: it takes a first part of the text and leaves the rest.

  * `CharClass`: a set of characters, with `CharClass.holds`;
  * `Pattern`: words, characters of a class, repetition of a class, sequence and option, a look at
    the next character, and the end of the line;
  * `Consumes f p s r`: the pattern `p` may take a first part of `s` and leave `r`, where `f` says
    whether case counts.  A pattern may leave several rests: repetition may stop early.
-/
import DiagramLint.Text.Blank
import DiagramLint.Text.Fold

namespace DiagramLint

open Text

/-! ## Classes of characters -/

/-- A member of an enumerated class. -/
inductive ClassItem where
  /-- One character. -/
  | char (c : Char)
  /-- The characters from the first to the last. -/
  | range (first last : Char)
  /-- The blank characters. -/
  | blank
  deriving Repr, DecidableEq

/-- The character belongs to the member as written. -/
def ClassItem.covers : ClassItem → Char → Bool
  | .char d, c => c == d
  | .range first last, c => first.toNat ≤ c.toNat && c.toNat ≤ last.toNat
  | .blank, c => isBlank c

/-- A class of characters. -/
inductive CharClass where
  /-- Every character but the newline. -/
  | dot
  /-- The blank characters. -/
  | blank
  /-- One character. -/
  | only (c : Char)
  /-- The characters of one of the members. -/
  | among (items : List ClassItem)
  /-- The characters of none of the members. -/
  | except (items : List ClassItem)
  deriving Repr, DecidableEq

/-- A character that counts as `c` belongs to one of the members. -/
def ClassItem.anyCovers (f : Folding) (items : List ClassItem) (c : Char) : Bool :=
  items.any fun i => (f.mates c).any i.covers

/-- The character belongs to the class, where `f` says which characters count as one. -/
def CharClass.holds (f : Folding) : CharClass → Char → Bool
  | .dot, c => c != '\n'
  | .blank, c => isBlank c
  | .only d, c => f.fold c == f.fold d
  | .among items, c => ClassItem.anyCovers f items c
  | .except items, c => !ClassItem.anyCovers f items c

/-! ## Patterns -/

/-- A description of how a line begins. -/
inductive Pattern where
  /-- The word. -/
  | text (word : String)
  /-- One of the words. -/
  | anyOf (words : List String)
  /-- One character of the class. -/
  | one (cls : CharClass)
  /-- Any number of characters of the class, none among them. -/
  | many (cls : CharClass)
  /-- One or more characters of the class. -/
  | many1 (cls : CharClass)
  /-- The pattern or nothing. -/
  | opt (p : Pattern)
  /-- The first pattern, then the second. -/
  | seq (p q : Pattern)
  /-- Nothing, where no character of the class comes next. -/
  | notAhead (cls : CharClass)
  /-- Nothing, at the end of the text or before a newline that ends it. -/
  | lineEnd
  deriving Repr, DecidableEq

instance : Append Pattern := ⟨Pattern.seq⟩

theorem Pattern.append_eq (p q : Pattern) : p ++ q = p.seq q := rfl

/-! ## What a pattern takes -/

/-- The words are equal, character by character. -/
def SameWord (f : Folding) : List Char → List Char → Prop
  | [], [] => True
  | c :: w, d :: v => f.fold c = f.fold d ∧ SameWord f w v
  | _, _ => False

/-- The text ends here, but for one newline at most. -/
def AtLineEnd (s : List Char) : Prop := s = [] ∨ s = ['\n']

/-- `Consumes f p s r`: the pattern `p` may take a first part of the text `s` and leave `r`. -/
inductive Consumes (f : Folding) : Pattern → List Char → List Char → Prop
  | text {w : String} {v r} : SameWord f w.toList v → Consumes f (.text w) (v ++ r) r
  | anyOf {ws : List String} {w s r} : w ∈ ws → Consumes f (.text w) s r → Consumes f (.anyOf ws) s r
  | one {cls c r} : cls.holds f c = true → Consumes f (.one cls) (c :: r) r
  | manyStop {cls s} : Consumes f (.many cls) s s
  | manyMore {cls c s r} : cls.holds f c = true → Consumes f (.many cls) s r →
      Consumes f (.many cls) (c :: s) r
  | many1 {cls c s r} : cls.holds f c = true → Consumes f (.many cls) s r →
      Consumes f (.many1 cls) (c :: s) r
  | optSkip {p s} : Consumes f (.opt p) s s
  | optTake {p s r} : Consumes f p s r → Consumes f (.opt p) s r
  | seq {p q s t r} : Consumes f p s t → Consumes f q t r → Consumes f (.seq p q) s r
  | notAhead {cls s} : (∀ c t, s = c :: t → cls.holds f c = false) → Consumes f (.notAhead cls) s s
  | lineEnd {s} : AtLineEnd s → Consumes f .lineEnd s s

end DiagramLint
