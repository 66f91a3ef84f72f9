/-
  The rules of fields.

  A field has a type, and it must be given, or may be null, or has a value of its own when it is
  absent.  Such a rule says what a form is reported for, and which value it gives to the field.

  * `FieldType.Fits`, `FieldType.problem?`: the values of a type, and what can be wrong with one;
  * `FieldRule.report?`, `FieldRule.value?`: what the rule says of a form;
  * `FieldType.Decides type check write`: values are checked as the type says, and what the check
    gives is written down by `write`;
  * `FieldRule.Governs r form write c`: a field is checked as its rule says.

  `decides_truth` to `decides_duration`: the check for each type.  `Decides.required`,
  `Decides.optional` and `Decides.withDefault`: the three ways in which a field is read.
-/
import DiagramLint.Wire

namespace DiagramLint

/-! ## Checks -/

namespace Checked

variable {α β γ : Type} {path : List String} {v : Json}

/-- What the errors are, and where. -/
def report (c : Checked α) : List (List String × FieldProblem) :=
  c.errors.map fun e => (e.path, e.problem)

@[simp] theorem report_map (f : α → β) (c : Checked α) : (c.map f).report = c.report := by
  rw [report, errors_map, report]

@[simp] theorem report_seq (f : Checked (α → β)) (c : Checked α) :
    (f.seq c).report = f.report ++ c.report := by
  rw [report, errors_seq, List.map_append, ← report, ← report]

theorem map_id (c : Checked α) : (c.map fun a => a) = c := by
  cases c <;> rfl

theorem value?_eq_none_iff {c : Checked α} : c.value? = none ↔ c.report ≠ [] := by
  cases c <;> simp [value?, report, errors]

theorem andThen_eq_ok_iff {c : Checked α} {f : α → Checked β} {b : β} :
    c.andThen f = .ok b ↔ ∃ a, c = .ok a ∧ f a = .ok b := by
  cases c <;> simp [andThen]

theorem report_andThen_of_failed {c : Checked α} (h : c.report ≠ []) (f : α → Checked β) :
    (c.andThen f).report = c.report := by
  cases c with
  | ok => exact absurd rfl h
  | failed => rfl

theorem exists_eq_ok_of_report_eq_nil {c : Checked α} (h : c.report = []) : ∃ a, c = .ok a := by
  cases c with
  | ok a => exact ⟨a, rfl⟩
  | failed => cases h

theorem map_eq_ok_iff {f : α → β} {a : Checked α} {b : β} :
    a.map f = .ok b ↔ ∃ x, a = .ok x ∧ f x = b := by
  cases a <;> simp [map]

theorem seq_eq_ok_iff {f : Checked (α → β)} {a : Checked α} {b : β} :
    f.seq a = .ok b ↔ ∃ g x, f = .ok g ∧ a = .ok x ∧ g x = b := by
  cases f <;> cases a <;> simp [map, seq]

theorem map_seq_eq_ok_iff {f : α → β → γ} {a : Checked α} {b : Checked β} {c : γ} :
    (a.map f).seq b = .ok c ↔ ∃ x y, a = .ok x ∧ b = .ok y ∧ f x y = c := by
  cases a <;> cases b <;> simp [map, seq]

theorem errorKind_eq_ok_iff {k : ErrorKind} : errorKind path v = .ok k ↔ v = .str k.name := by
  unfold errorKind
  constructor
  · intro h
    split at h
    · next l hl =>
      cases h
      cases v with
      | str s => rw [ErrorKind.read_eq_ok_iff.1 (Option.some.inj hl)]
      | _ => cases hl
    · cases h
  · rintro rfl
    simp only [Json.text?, Option.map_some, ErrorKind.read_eq_ok_iff.2 rfl]

theorem errorKind_cases (path : List String) (v : Json) :
    (∃ k, errorKind path v = .ok k) ∨ (errorKind path v).report = [(path, .notAKind)] := by
  unfold errorKind
  split
  · exact .inl ⟨_, rfl⟩
  · exact .inr rfl

theorem change_eq_ok_iff {c : ChangeType} : change path v = .ok c ↔ v = .str c.name := by
  unfold change
  constructor
  · intro h
    split at h
    · next d hd =>
      cases h
      cases v with
      | str s =>
        have hs := List.find?_some hd
        rw [beq_iff_eq] at hs
        rw [hs]
      | _ => cases hd
    · cases h
  · rintro rfl
    simp [Json.text?, ChangeType.ofName?_name]

theorem change_cases (path : List String) (v : Json) :
    (∃ c, change path v = .ok c) ∨ (change path v).report = [(path, .notAChange)] := by
  unfold change
  split
  · exact .inl ⟨_, rfl⟩
  · exact .inr rfl

theorem list_eq_ok_iff {items : List Json} : list path v = .ok items ↔ v = .arr items := by
  cases v <;> simp [list, fail]

theorem integerFrom_eq_ok_iff {least n : Int} :
    integerFrom least path v = .ok n ↔ integerOf v = .ok n ∧ least ≤ n := by
  unfold integerFrom integer
  cases integerOf v with
  | error p => simp [andThen, fail]
  | ok m =>
    simp only [andThen, atLeast, Except.ok.injEq]
    split
    · simp only [fail, reduceCtorEq, false_iff]
      omega
    · simp only [ok.injEq]
      omega

theorem orNull_eq_ok_iff {check : List String → Json → Checked α} {o : Option α} :
    orNull check path v = .ok o ↔
      v = .null ∧ o = none ∨ v ≠ .null ∧ ∃ a, check path v = .ok a ∧ o = some a := by
  unfold orNull
  split
  · simp [eq_comm]
  · next hv =>
    have hne : v ≠ .null := fun he => hv he
    cases check path v <;> simp [map, hne, eq_comm]

end Checked

theorem Draft.checkLine_int (path : List String) (n : Int) : Draft.checkLine path (.num (.int n)) =
    if h : 1 ≤ n then .ok ⟨n.toNat, by omega⟩ else .fail path (.belowLeast 1) := by
  simp only [checkLine, Checked.integer, integerOf, Checked.andThen, LineNumber.ofInt?,
    LineNumber.ofNat?]
  by_cases h : 1 ≤ n
  · rw [dif_pos h, dif_pos (by omega)]
  · rw [dif_neg h, dif_neg (by omega)]

/-! ## Types of fields -/

/-- What the values of a field are. -/
inductive FieldType where
  | truth
  | text
  /-- The name of a kind of error. -/
  | kind
  /-- The name of a change. -/
  | change
  /-- An integer, perhaps with the least one allowed. -/
  | integer (least : Option Int)
  /-- A number that is read as a double, from zero on. -/
  | duration
  deriving Repr, DecidableEq

namespace FieldType

/-- The value is of the type, be it allowed or not. -/
inductive Fits : FieldType → Json → Prop
  | truth (b : Bool) : Fits truth (.bool b)
  | text (s : String) : Fits text (.str s)
  | kind (s : String) : Fits kind (.str s)
  | change (s : String) : Fits change (.str s)
  | integer (least : Option Int) (n : Int) : Fits (integer least) (.num (.int n))
  | duration {t : JsonNumber} : t.hasDouble = true → Fits duration (.num t)

theorem Fits.ne_null {type : FieldType} {v : Json} (h : type.Fits v) : v ≠ .null := by
  cases h <;> nofun

/-- What is wrong with a value of the type: a name that nothing has, or a number that is too small. -/
def problem? : FieldType → Json → Option FieldProblem
  | kind, .str s => if s ∈ ErrorKind.all.map (·.name) then none else some .notAKind
  | change, .str s => if s ∈ ChangeType.all.map (·.name) then none else some .notAChange
  | integer (some least), .num (.int n) => if least ≤ n then none else some (.belowLeast least)
  | duration, .num t => if t.isNonneg then none else some (.belowLeast 0)
  | _, _ => none

theorem problem?_null : ∀ type : FieldType, type.problem? .null = none
  | truth | text | kind | change | integer none | integer (some _) | duration => rfl

/-- Of a value of the type, the check reports what is wrong with it, or gives what is written down as
    the value.  What it does with other values is left open. -/
structure Decides {α : Type} (type : FieldType) (check : List String → Json → Checked α)
    (write : α → Json) : Prop where
  report_eq : ∀ path v, type.Fits v →
    (check path v).report = ((type.problem? v).map (path, ·)).toList
  eq_ok_iff : ∀ path v a, type.Fits v → (check path v = .ok a ↔ v = write a)
  fits : ∀ a, type.Fits (write a)

theorem decides_truth : Decides .truth Checked.bool Json.bool where
  report_eq path v h := by
    cases h with
    | truth b => rfl
  eq_ok_iff path v a h := by
    cases h with
    | truth b => simp [Checked.bool]
  fits := .truth

theorem decides_text : Decides .text Checked.text Json.str where
  report_eq path v h := by
    cases h with
    | text s => rfl
  eq_ok_iff path v a h := by
    cases h with
    | text s => simp [Checked.text]
  fits := .text

/-- A check that accepts names, and has one problem with all other texts, is that of their type. -/
theorem decides_of_names {α : Type} {type : FieldType} {check : List String → Json → Checked α}
    {name : α → String} {all : List α} {problem : FieldProblem} (hall : ∀ a, a ∈ all)
    (hfits : ∀ v, type.Fits v ↔ ∃ s, v = .str s)
    (hproblem : ∀ s, type.problem? (.str s) = if s ∈ all.map name then none else some problem)
    (hok : ∀ path v a, check path v = .ok a ↔ v = .str (name a))
    (hcases : ∀ path v, (∃ a, check path v = .ok a) ∨ (check path v).report = [(path, problem)]) :
    type.Decides check (fun a => .str (name a)) where
  report_eq path v h := by
    obtain ⟨s, rfl⟩ := (hfits v).1 h
    rw [hproblem]
    by_cases hs : s ∈ all.map name
    · obtain ⟨a, -, ha⟩ := List.mem_map.1 hs
      rw [if_pos hs, (hok path _ a).2 (congrArg Json.str ha.symm)]
      rfl
    · obtain ⟨a, ha⟩ | hfail := hcases path (.str s)
      · have hname : s = name a := Json.str.inj ((hok _ _ _).1 ha)
        exact absurd (List.mem_map.2 ⟨a, hall a, hname.symm⟩) hs
      · rw [if_neg hs, hfail]
        rfl
  eq_ok_iff path v a _ := hok path v a
  fits a := (hfits _).2 ⟨_, rfl⟩

theorem decides_kind : Decides .kind Checked.errorKind (fun k => .str k.name) := by
  refine decides_of_names ErrorKind.mem_all (fun v => ⟨?_, ?_⟩) (fun _ => rfl)
    (fun _ _ _ => Checked.errorKind_eq_ok_iff) Checked.errorKind_cases
  · rintro ⟨s⟩
    exact ⟨_, rfl⟩
  · rintro ⟨s, rfl⟩
    exact .kind s

theorem decides_change : Decides .change Checked.change (fun c => .str c.name) := by
  refine decides_of_names ChangeType.mem_all (fun v => ⟨?_, ?_⟩) (fun _ => rfl)
    (fun _ _ _ => Checked.change_eq_ok_iff) Checked.change_cases
  · rintro ⟨s⟩
    exact ⟨_, rfl⟩
  · rintro ⟨s, rfl⟩
    exact .change s

theorem decides_integer : Decides (.integer none) Checked.integer (fun n : Int => n) where
  report_eq path v h := by
    cases h with
    | integer _ n => rfl
  eq_ok_iff path v a h := by
    cases h with
    | integer _ n => simp [Checked.integer, integerOf]
  fits := .integer none

theorem decides_line :
    Decides (.integer (some 1)) Draft.checkLine (fun n : LineNumber => (n.val : Json)) where
  report_eq path v h := by
    cases h with | integer _ n =>
    rw [Draft.checkLine_int, problem?]
    split <;> rfl
  eq_ok_iff path v a h := by
    cases h with | integer _ n =>
    rw [Draft.checkLine_int]
    split
    · next hn =>
      simp only [Checked.ok.injEq, Json.num.injEq, JsonNumber.int.injEq, Subtype.ext_iff]
      omega
    · next hn =>
      refine iff_of_false nofun fun h => hn ?_
      obtain rfl : n = a.val := JsonNumber.int.inj (Json.num.inj h)
      have := a.property
      omega
  fits n := .integer (some 1) _

theorem decides_count :
    Decides (.integer (some 0)) Checked.count (fun n : Nat => (n : Json)) where
  report_eq path v h := by
    cases h with | integer _ n =>
    rw [Checked.count, Checked.report_map, problem?]
    by_cases hn : 0 ≤ n
    · rw [Checked.integerFrom_eq_ok_iff.2 ⟨rfl, hn⟩, if_pos hn]
      rfl
    · rw [if_neg hn]
      simp only [Checked.integerFrom, Checked.integer, integerOf, Checked.andThen, Checked.atLeast,
        if_pos (Int.not_le.1 hn)]
      rfl
  eq_ok_iff path v a h := by
    cases h with | integer _ n =>
    simp only [Checked.count, Checked.map_eq_ok_iff, Checked.integerFrom_eq_ok_iff, integerOf,
      Except.ok.injEq, Json.num.injEq, JsonNumber.int.injEq]
    constructor
    · rintro ⟨_, ⟨rfl, hn⟩, rfl⟩
      omega
    · rintro rfl
      exact ⟨_, ⟨rfl, by omega⟩, by omega⟩
  fits n := .integer (some 0) _

theorem decides_duration : Decides .duration Checked.duration (fun t => .num t.val) where
  report_eq path v h := by
    cases h with | @duration t ht =>
    simp only [Checked.duration, dif_pos ht, problem?]
    split <;> rfl
  eq_ok_iff path v a h := by
    cases h with | @duration t ht =>
    simp only [Checked.duration, dif_pos ht]
    split
    · simp [Subtype.ext_iff]
    · next hn =>
      simp only [Checked.fail, reduceCtorEq, Json.num.injEq, false_iff]
      rintro rfl
      exact hn (Bool.and_eq_true_iff.1 a.property).2
  fits t := .duration (Bool.and_eq_true_iff.1 t.property).1

end FieldType

/-! ## Rules -/

/-- What becomes of a field that is not given. -/
inductive Presence where
  /-- It is missing. -/
  | required
  /-- It is null; it may be given as null, too. -/
  | nullable
  /-- It has the value `v`. -/
  | defaulted (v : Json)
  deriving Repr

/-- The value of a field that is not given. -/
def Presence.default? : Presence → Option Json
  | required => none
  | nullable => some .null
  | defaulted v => some v

/-- The value that the field is given. -/
def FieldName.value? (n : FieldName) (form : Json) : Option Json := (n.given? form).map (·.2)

/-- What is asked of a field. -/
structure FieldRule where
  name : FieldName
  presence : Presence
  type : FieldType
  deriving Repr

namespace FieldRule

/-- The value is of the right type for the field: it has the type of the rule, or is null where null
    will do. -/
def Admits (r : FieldRule) (v : Json) : Prop :=
  r.type.Fits v ∨ r.presence = .nullable ∧ v = .null

/-- If the form gives the field, then by a value of the right type. -/
def Admitted (r : FieldRule) (form : Json) : Prop :=
  ∀ name v, r.name.given? form = some (name, v) → r.Admits v

theorem Admitted.of_given {r : FieldRule} {form v : Json} {name : String}
    (h : r.name.given? form = some (name, v)) (hv : r.Admits v) : r.Admitted form := by
  intro name' v' h'
  obtain ⟨-, rfl⟩ := Prod.mk.inj (Option.some.inj (h.symm.trans h'))
  exact hv

theorem Admitted.of_not_given {r : FieldRule} {form : Json} (h : r.name.given? form = none) :
    r.Admitted form := by
  intro name v h'
  rw [h] at h'
  cases h'

/-- What the form is reported for: the field is missing, or the value that counts is wrong.  The
    report names the field as it is given, and in camel case if it is not. -/
def report? (r : FieldRule) (form : Json) : Option (List String × FieldProblem) :=
  match r.name.given? form, r.presence with
  | some (name, v), _ => (r.type.problem? v).map ([name], ·)
  | none, .required => some ([r.name.camel], .missing)
  | none, _ => none

/-- The value of the field, be it given or not. -/
def value? (r : FieldRule) (form : Json) : Option Json :=
  (r.name.value? form).or r.presence.default?

theorem value?_of_given {r : FieldRule} {form v : Json} {name : String}
    (h : r.name.given? form = some (name, v)) : r.value? form = some v := by
  rw [value?, FieldName.value?, h]
  rfl

theorem value?_of_not_given {r : FieldRule} {form : Json} (h : r.name.given? form = none) :
    r.value? form = r.presence.default? := by
  rw [value?, FieldName.value?, h]
  rfl

/-- The check of the field reports what the rule does, or gives what is written down as the value of
    the field. -/
structure Governs {α : Type} (r : FieldRule) (form : Json) (write : α → Json) (c : Checked α) :
    Prop where
  report_eq : c.report = (r.report? form).toList
  eq_ok_iff : ∀ a, c = .ok a ↔ r.value? form = some (write a)

end FieldRule

namespace FieldType.Decides

variable {α : Type} {type : FieldType} {check : List String → Json → Checked α}
  {write : α → Json} {n : FieldName} {form v : Json} {name : String}

theorem write_injective (hc : type.Decides check write) : Function.Injective write := by
  intro a b h
  have ha : check [] (write a) = .ok a := (hc.eq_ok_iff [] _ a (hc.fits a)).2 rfl
  have hb : check [] (write a) = .ok b := (hc.eq_ok_iff [] _ b (hc.fits a)).2 h
  exact Checked.ok.inj (ha.symm.trans hb)

theorem governs_of_given (hc : type.Decides check write) (hg : n.given? form = some (name, v))
    (hv : type.Fits v) (p : Presence) :
    FieldRule.Governs ⟨n, p, type⟩ form write (check [name] v) where
  report_eq := by rw [hc.report_eq _ _ hv, FieldRule.report?, hg]
  eq_ok_iff a := by rw [hc.eq_ok_iff _ _ _ hv, FieldRule.value?_of_given hg, Option.some.injEq]

theorem required (hc : type.Decides check write)
    (ht : FieldRule.Admitted ⟨n, .required, type⟩ form) :
    FieldRule.Governs ⟨n, .required, type⟩ form write (n.required form check) := by
  unfold FieldName.required
  split
  · next name v hg =>
    obtain hv | ⟨hp, -⟩ := ht name v hg
    · exact hc.governs_of_given hg hv _
    · cases hp
  · next hg =>
    constructor
    · rw [FieldRule.report?, hg]
      rfl
    · intro a
      rw [FieldRule.value?_of_not_given hg]
      exact iff_of_false nofun nofun

theorem withDefault (hc : type.Decides check write) (default : α)
    (ht : FieldRule.Admitted ⟨n, .defaulted (write default), type⟩ form) :
    FieldRule.Governs ⟨n, .defaulted (write default), type⟩ form write
      (n.withDefault form check default) := by
  unfold FieldName.withDefault
  split
  · next name v hg =>
    obtain hv | ⟨hp, -⟩ := ht name v hg
    · exact hc.governs_of_given hg hv _
    · cases hp
  · next hg =>
    constructor
    · rw [FieldRule.report?, hg]
      rfl
    · intro a
      rw [FieldRule.value?_of_not_given hg, Checked.ok.injEq, Presence.default?, Option.some.injEq]
      exact hc.write_injective.eq_iff.symm

/-- Nothing, and only nothing, is written down as null. -/
theorem ok_none_eq_iff (hc : type.Decides check write) (o : Option α) :
    Checked.ok none = Checked.ok o ↔ some Json.null = some (Json.ofOption write o) := by
  cases o with
  | none => exact iff_of_true rfl rfl
  | some a =>
    refine iff_of_false nofun fun h => ?_
    exact (hc.fits a).ne_null (Option.some.inj h).symm

theorem orNull_of_fits (hv : type.Fits v) (check : List String → Json → Checked α)
    (path : List String) : Checked.orNull check path v = (check path v).map some := by
  unfold Checked.orNull
  split
  · exact absurd rfl hv.ne_null
  · rfl

theorem optional (hc : type.Decides check write)
    (ht : FieldRule.Admitted ⟨n, .nullable, type⟩ form) :
    FieldRule.Governs ⟨n, .nullable, type⟩ form (Json.ofOption write) (n.optional form check) := by
  unfold FieldName.optional FieldName.withDefault
  split
  · next name v hg =>
    obtain hv | ⟨-, rfl⟩ := ht name v hg
    · obtain ⟨hreport, -⟩ := hc.governs_of_given hg hv .nullable
      rw [orNull_of_fits hv]
      constructor
      · rw [Checked.report_map, hreport]
      · intro o
        rw [Checked.map_eq_ok_iff, FieldRule.value?_of_given hg, Option.some.injEq]
        cases o with
        | none => simp [Json.ofOption, hv.ne_null]
        | some a => simp [Json.ofOption, hc.eq_ok_iff _ _ _ hv]
    · constructor
      · rw [FieldRule.report?, hg]
        simp only [problem?_null]
        rfl
      · intro o
        rw [FieldRule.value?_of_given hg]
        exact hc.ok_none_eq_iff o
  · next hg =>
    constructor
    · rw [FieldRule.report?, hg]
      rfl
    · intro o
      rw [FieldRule.value?_of_not_given hg]
      exact hc.ok_none_eq_iff o

theorem admits_ofOption (hc : type.Decides check write) (n : FieldName) (o : Option α) :
    FieldRule.Admits ⟨n, .nullable, type⟩ (Json.ofOption write o) := by
  cases o with
  | none => exact .inr ⟨rfl, rfl⟩
  | some a => exact .inl (hc.fits a)

end FieldType.Decides

end DiagramLint
