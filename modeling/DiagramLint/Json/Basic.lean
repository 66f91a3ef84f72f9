/-
  Values of JSON.

  * `Json`: a value; numbers written as integers are kept apart from those with a fraction or an
    exponent, and an object keeps its members in the order of the text.  The texts in a value are
    texts of characters, unless another type is given: a value that comes from outside is one of
    codes;
  * `Json.same`: equality, part by part, which decides `=`;
  * `Json.member?`: the value of a member of an object, of which the last of one name counts;
  * `Json.text?`: the text that a value is;
  * `Json.mapText`: a value with its texts under a function.
-/
namespace DiagramLint

/-- A number of JSON. -/
inductive JsonNumber where
  /-- A number without fraction and exponent. -/
  | int (n : Int)
  /-- `mantissa` times ten to the power `exponent`. -/
  | decimal (mantissa exponent : Int)
  | infinity (negative : Bool)
  /-- What is called a number and is none. -/
  | nan
  deriving Repr, DecidableEq

/-- A value of JSON, with texts in `τ`. -/
inductive Json (τ : Type := String) where
  | null
  | bool (b : Bool)
  | num (n : JsonNumber)
  | str (s : τ)
  | arr (items : List (Json τ))
  | obj (members : List (τ × Json τ))
  deriving Repr

namespace Json

instance : Coe Bool Json := ⟨bool⟩
instance : Coe String Json := ⟨str⟩
instance : Coe Int Json := ⟨fun n => num (.int n)⟩
instance : Coe Nat Json := ⟨fun n => num (.int n)⟩

/-- A value or null. -/
def ofOption {α : Type} (f : α → Json) : Option α → Json
  | some a => f a
  | none => null

/-! ## Equality -/

section same

variable {τ : Type} [DecidableEq τ]

mutual

/-- The values are equal, part by part. -/
def same : Json τ → Json τ → Bool
  | null, null => true
  | bool b, bool c => b == c
  | num m, num n => m == n
  | str s, str t => s == t
  | arr vs, arr ws => sameItems vs ws
  | obj ms, obj ns => sameMembers ms ns
  | _, _ => false

/-- The same for the items of arrays. -/
def sameItems : List (Json τ) → List (Json τ) → Bool
  | [], [] => true
  | v :: vs, w :: ws => same v w && sameItems vs ws
  | _, _ => false

/-- The same for the members of objects, and their names. -/
def sameMembers : List (τ × Json τ) → List (τ × Json τ) → Bool
  | [], [] => true
  | (m, v) :: ms, (n, w) :: ns => m == n && same v w && sameMembers ms ns
  | _, _ => false

end

mutual

theorem same_iff : ∀ v w : Json τ, same v w = true ↔ v = w
  | null, w => by cases w <;> simp [same]
  | bool b, w => by cases w <;> simp [same]
  | num n, w => by cases w <;> simp [same]
  | str s, w => by cases w <;> simp [same]
  | arr vs, w => by cases w <;> simp [same, sameItems_iff vs]
  | obj ms, w => by cases w <;> simp [same, sameMembers_iff ms]

theorem sameItems_iff : ∀ vs ws : List (Json τ), sameItems vs ws = true ↔ vs = ws
  | [], ws => by cases ws <;> simp [sameItems]
  | v :: vs, ws => by cases ws <;> simp [sameItems, same_iff v, sameItems_iff vs]

theorem sameMembers_iff : ∀ ms ns : List (τ × Json τ), sameMembers ms ns = true ↔ ms = ns
  | [], ns => by cases ns <;> simp [sameMembers]
  | (m, v) :: ms, ns => by
    cases ns <;> simp [sameMembers, same_iff v, sameMembers_iff ms, Prod.ext_iff, and_assoc]

end

instance : DecidableEq (Json τ) := fun v w => decidable_of_iff _ (same_iff v w)

end same

/-! ## Parts -/

/-- The value of a member; of members of one name the last one counts. -/
def lookup {τ : Type} [DecidableEq τ] (name : τ) : List (τ × Json τ) → Option (Json τ)
  | [] => none
  | (n, v) :: ms => (lookup name ms).or (if n = name then some v else none)

/-- The value of a member of an object. -/
def member? : Json → String → Option Json
  | obj members, name => lookup name members
  | _, _ => none

/-- The text that a value is. -/
def text? : Json → Option String
  | str s => some s
  | _ => none

theorem lookup_append {τ : Type} [DecidableEq τ] (name : τ) (ms ns : List (τ × Json τ)) :
    lookup name (ms ++ ns) = (lookup name ns).or (lookup name ms) := by
  induction ms with
  | nil => simp [lookup]
  | cons m ms ih =>
    obtain ⟨n, v⟩ := m
    simp [lookup, ih, Option.or_assoc]

/-! ## Texts in a value -/

section mapText

variable {σ τ : Type} (f : σ → τ)

mutual

/-- The value with its texts under a function. -/
def mapText : Json σ → Json τ
  | null => null
  | bool b => bool b
  | num n => num n
  | str s => str (f s)
  | arr items => arr (mapTextItems items)
  | obj members => obj (mapTextMembers members)

/-- The same for the items of an array. -/
def mapTextItems : List (Json σ) → List (Json τ)
  | [] => []
  | v :: vs => mapText v :: mapTextItems vs

/-- The same for the members of an object, and their names. -/
def mapTextMembers : List (σ × Json σ) → List (τ × Json τ)
  | [] => []
  | (name, v) :: ms => (f name, mapText v) :: mapTextMembers ms

end

theorem mapTextItems_eq_map (vs : List (Json σ)) : mapTextItems f vs = vs.map (mapText f) := by
  induction vs with
  | nil => rfl
  | cons v vs ih => rw [mapTextItems, ih, List.map_cons]

/-- What is looked up under a name is found under its image, if no other name has that image. -/
theorem lookup_mapTextMembers [DecidableEq σ] [DecidableEq τ] {name : σ}
    (h : ∀ n, f n = f name ↔ n = name) (ms : List (σ × Json σ)) :
    lookup (f name) (mapTextMembers f ms) = (lookup name ms).map (mapText f) := by
  induction ms with
  | nil => rfl
  | cons m ms ih =>
    obtain ⟨n, v⟩ := m
    simp only [mapTextMembers, lookup, ih, h, Option.map_or]
    congr 1
    split <;> rfl

end mapText

end Json

end DiagramLint
