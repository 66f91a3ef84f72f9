/-
  The lines that count.

  * `isMeaningful`: a line that is neither blank nor a comment;
  * `meaningful`: the lines that count, trimmed;
  * `elementCount`: how many there are.

  `isMeaningful_trim`: surrounding blanks never matter.
-/
import DiagramLint.Text.Blank

namespace DiagramLint

open Text

/-- What opens a comment. -/
def commentMark : Line := ['%', '%']

/-- The line holds something, and not a comment. -/
def isMeaningful (l : Line) : Bool := trim l != [] && !commentMark.isPrefixOf (trim l)

/-- The lines that count, trimmed. -/
def meaningful (ls : List Line) : List Line := (ls.filter isMeaningful).map trim

/-- The number of lines that count. -/
def elementCount (ls : List Line) : Nat := ls.countP isMeaningful

@[simp] theorem isMeaningful_trim (l : Line) : isMeaningful (trim l) = isMeaningful l := by
  simp [isMeaningful]

theorem mem_meaningful {l : Line} {ls : List Line} :
    l ∈ meaningful ls ↔ ∃ r ∈ ls, isMeaningful r = true ∧ trim r = l := by
  simp [meaningful, and_assoc]

theorem forall_mem_meaningful {ls : List Line} {p : Line → Prop} :
    (∀ l ∈ meaningful ls, p l) ↔ ∀ l ∈ ls, isMeaningful l = true → p (trim l) := by
  constructor
  · intro h l hl hm
    exact h (trim l) (mem_meaningful.2 ⟨l, hl, hm, rfl⟩)
  · intro h l hl
    obtain ⟨r, hr, hm, rfl⟩ := mem_meaningful.1 hl
    exact h r hr hm

theorem elementCount_eq_length (ls : List Line) : elementCount ls = (meaningful ls).length := by
  simp [elementCount, meaningful, List.countP_eq_length_filter]

@[simp] theorem meaningful_append (ls ms : List Line) :
    meaningful (ls ++ ms) = meaningful ls ++ meaningful ms := by
  simp [meaningful]

end DiagramLint
