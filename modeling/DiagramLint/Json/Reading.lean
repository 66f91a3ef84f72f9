/-
  The two readings of a value of JSON.

  A value that comes from outside holds texts of codes.  Like a text, it is read twice, and what is
  made of it may show a surrogate where the two readings differ.

  * `Reading.json`: a value in one of its readings;
  * `Json.firstRun?`: the first surrogates that two readings of a value show;
  * `Json.IsWhole`: no text in the value holds a surrogate that stands alone.

  `Json.firstRun?_self`: what is read alike shows no surrogate.  `Reading.json_of_isWhole`: a whole
  value is read alike.  `Reading.lookup_members`: the members of an object keep their names.
-/
import DiagramLint.Json.Basic
import DiagramLint.Text.Surrogate

namespace DiagramLint

open Text

namespace Reading

/-- A value in one of its readings. -/
def json (rd : Reading) : Json Codes → Json := Json.mapText rd.text

/-- The members of an object in one of their readings. -/
def members (rd : Reading) : List (Codes × Json Codes) → List (String × Json) :=
  Json.mapTextMembers rd.text

theorem json_obj (rd : Reading) (ms : List (Codes × Json Codes)) :
    rd.json (.obj ms) = .obj (rd.members ms) := by
  rw [json, Json.mapText, members]

theorem json_arr (rd : Reading) (vs : List (Json Codes)) :
    rd.json (.arr vs) = .arr (vs.map rd.json) := by
  rw [json, Json.mapText, Json.mapTextItems_eq_map]

end Reading

namespace Json

/-! ## What two readings show -/

mutual

/-- The first surrogates that two readings of a value show, by their place in the text that holds
    them. -/
def firstRun? : Json → Json → Option Run
  | str s, str t => Text.firstRun? s.toList t.toList
  | arr vs, arr ws => firstRunItems? vs ws
  | obj ms, obj ns => firstRunMembers? ms ns
  | _, _ => none

/-- The same for the items of arrays. -/
def firstRunItems? : List Json → List Json → Option Run
  | v :: vs, w :: ws => (firstRun? v w).or (firstRunItems? vs ws)
  | _, _ => none

/-- The same for the members of objects, and their names. -/
def firstRunMembers? : List (String × Json) → List (String × Json) → Option Run
  | (m, v) :: ms, (n, w) :: ns =>
    ((Text.firstRun? m.toList n.toList).or (firstRun? v w)).or (firstRunMembers? ms ns)
  | _, _ => none

end

mutual

/-- What is read alike shows no surrogate. -/
theorem firstRun?_self : ∀ v : Json, firstRun? v v = none
  | null | bool _ | num _ => rfl
  | str s => by rw [firstRun?, Text.firstRun?_self]
  | arr vs => by rw [firstRun?, firstRunItems?_self]
  | obj ms => by rw [firstRun?, firstRunMembers?_self]

theorem firstRunItems?_self : ∀ vs : List Json, firstRunItems? vs vs = none
  | [] => rfl
  | v :: vs => by rw [firstRunItems?, firstRun?_self, firstRunItems?_self, Option.or_none]

theorem firstRunMembers?_self : ∀ ms : List (String × Json), firstRunMembers? ms ms = none
  | [] => rfl
  | (m, v) :: ms => by
    rw [firstRunMembers?, Text.firstRun?_self, firstRun?_self, firstRunMembers?_self,
      Option.or_none, Option.or_none]

end

/-! ## Whole values -/

mutual

/-- No text in the value holds a surrogate that stands alone. -/
def IsWhole : Json Codes → Prop
  | null | bool _ | num _ => True
  | str s => ∀ c ∈ s, c.isChar = true
  | arr vs => AreWhole vs
  | obj ms => HasWholeMembers ms

/-- The same for the items of an array. -/
def AreWhole : List (Json Codes) → Prop
  | [] => True
  | v :: vs => IsWhole v ∧ AreWhole vs

/-- The same for the members of an object, and their names. -/
def HasWholeMembers : List (Codes × Json Codes) → Prop
  | [] => True
  | (name, v) :: ms => (∀ c ∈ name, c.isChar = true) ∧ IsWhole v ∧ HasWholeMembers ms

end

end Json

namespace Reading

variable (rd : Reading)

theorem text_of_isChar {cs : Codes} (h : ∀ c ∈ cs, c.isChar = true) :
    rd.text cs = first.text cs := by
  rw [text, chars_of_isChar h, text]

mutual

/-- **A whole value is read alike.** -/
theorem json_of_isWhole : ∀ v : Json Codes, v.IsWhole → rd.json v = first.json v
  | .null, _ | .bool _, _ | .num _, _ => rfl
  | .str _, h => congrArg Json.str (rd.text_of_isChar h)
  | .arr vs, h => congrArg Json.arr (items_of_areWhole vs h)
  | .obj ms, h => congrArg Json.obj (members_of_hasWholeMembers ms h)

theorem items_of_areWhole : ∀ vs : List (Json Codes), Json.AreWhole vs →
    Json.mapTextItems rd.text vs = Json.mapTextItems first.text vs
  | [], _ => rfl
  | v :: vs, h => by
    have hv : Json.mapText rd.text v = Json.mapText first.text v := json_of_isWhole v h.1
    rw [Json.mapTextItems, hv, items_of_areWhole vs h.2, Json.mapTextItems]

theorem members_of_hasWholeMembers : ∀ ms : List (Codes × Json Codes), Json.HasWholeMembers ms →
    Json.mapTextMembers rd.text ms = Json.mapTextMembers first.text ms
  | [], _ => rfl
  | (_, v) :: ms, h => by
    have hv : Json.mapText rd.text v = Json.mapText first.text v := json_of_isWhole v h.2.1
    rw [Json.mapTextMembers, rd.text_of_isChar h.1, hv, members_of_hasWholeMembers ms h.2.2,
      Json.mapTextMembers]

end

/-! ## Names of members -/

/-- No character of the text stands for a surrogate. -/
def Spares (name : String) : Prop := ∀ c ∈ name.toList, c.toNat < 0xF0000

instance (name : String) : Decidable (Spares name) :=
  decidable_of_iff ((name.toList.all fun c => c.toNat < 0xF0000) = true) (by simp [Spares])

theorem toNat_char_lone_ge (s : Surrogate) : 0xF0000 ≤ (rd.char (.lone s)).toNat := by
  cases rd with
  | first => exact (toNat_standIn_first s).symm ▸ Nat.le_add_right _ _
  | second =>
    have h := toNat_standIn_second s
    rw [char, h]
    omega

/-- Only a text itself is read as a text without stand-ins. -/
theorem text_eq_text_ofText_iff {name : String} (h : Spares name) (cs : Codes) :
    rd.text cs = rd.text (Code.ofText name) ↔ cs = Code.ofText name := by
  refine ⟨fun he => ?_, congrArg rd.text⟩
  rw [text_ofText, text, ← String.toList_inj, String.toList_ofList] at he
  rw [Code.ofText, ← he, chars, List.map_map]
  refine (List.map_id _).symm.trans (List.map_congr_left fun c hc => ?_)
  cases c with
  | char => rfl
  | lone s =>
    have hm : rd.char (.lone s) ∈ name.toList := he ▸ List.mem_map_of_mem hc
    exact absurd (h _ hm) (Nat.not_lt.2 (rd.toNat_char_lone_ge s))

/-- **The members of an object keep their names.** -/
theorem lookup_members {name : String} (h : Spares name) (ms : List (Codes × Json Codes)) :
    Json.lookup name (rd.members ms) = (Json.lookup (Code.ofText name) ms).map rd.json := by
  have hl := Json.lookup_mapTextMembers rd.text (rd.text_eq_text_ofText_iff h) ms
  rwa [text_ofText] at hl

end Reading

end DiagramLint
