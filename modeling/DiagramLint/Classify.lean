/-
  The kind of error that a message speaks of.

  * `keyPhrases`: phrases in order, each with the kind that it stands for;
  * `classify`: the kind of the first phrase that occurs in the message in lower case, and `general`
    if none does;
  * `classify_eq_general_iff`: the message holds none of the phrases.
-/
import DiagramLint.ErrorKind
import DiagramLint.Text.Lower
import DiagramLint.Text.Strip

namespace DiagramLint

open Text

/-- The phrases that tell the kind of an error, the first one that occurs deciding. -/
def keyPhrases : List (String × ErrorKind) :=
  [("syntax error", .badSyntax), ("no diagram type", .noType), ("unknown", .unknownCommand),
   ("parse", .parse), ("identifier", .identifier), ("relation", .relation)]

/-- The kind of a message in lower case. -/
def classifyLower (s : List Char) : ErrorKind :=
  match keyPhrases.find? fun p => occursIn p.1.toList s with
  | some p => p.2
  | none => .general

/-- The kind of error that a message speaks of. -/
def classify (message : String) : ErrorKind := classifyLower (lowerCase message.toList)

theorem classify_eq_general_iff {message : String} :
    classify message = .general ↔
      ∀ p ∈ keyPhrases, ¬ p.1.toList <:+: lowerCase message.toList := by
  unfold classify classifyLower
  split
  · next p hp =>
    have hm := List.mem_of_find?_eq_some hp
    have ho := List.find?_some hp
    constructor
    · intro h
      have : ∀ p ∈ keyPhrases, p.2 ≠ .general := by decide
      exact absurd h (this p hm)
    · intro h
      exact absurd (occursIn_iff.1 ho) (h p hm)
  · next hn =>
    simp only [List.find?_eq_none, occursIn_iff] at hn
    exact ⟨fun _ => hn, fun _ => rfl⟩

end DiagramLint
