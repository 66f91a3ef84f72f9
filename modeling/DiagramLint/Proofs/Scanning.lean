/-
  The pass over the lines of a diagram, said without the pass.

  A line is stray for a table if it counts and no rule of the table accepts it.

  * `RuleTable.isStray`: the line is stray;
  * `RuleTable.isRequired`: the line has the required shape, which the first shape that accepts it
    decides;
  * `RuleTable.seen`: what there is to remember of all lines.

  `scan_of_first_stray`: the pass ends at the first stray line.  `scan_of_no_stray`: without one it
  ends with a verdict on what the lines that count hold, in whatever order they stand.
-/
import Mathlib.Data.List.Find
import DiagramLint.Scan

namespace DiagramLint

open Text

namespace RuleTable

variable (t : RuleTable)

/-! ## What a line is -/

/-- The line counts, and is none of what the table knows. -/
def isStray (l : Line) : Bool := isMeaningful l && t.role (trim l) == .stray

/-- The trimmed line has the required shape. -/
def isRequired (l : Line) : Bool :=
  match t.role l with
  | .shape name => some name == t.required
  | _ => false

/-- What there is to remember of all lines of a diagram. -/
def seen (ls : List Line) : Seen where
  declaration := (meaningful ls).any t.declaration.accepts
  required := t.required.isNone || (meaningful ls).any t.isRequired

variable {t} {l : Line} {ls : List Line}

theorem role_eq_declaration_iff : t.role l = .declaration ↔ t.declaration.accepts l = true := by
  unfold role
  split
  · next h => simp [h]
  · next h =>
    simp only [h]
    split
    · simp
    · split <;> simp

/-- A line is none of what the table knows if no rule accepts it. -/
theorem role_eq_stray_iff : t.role l = .stray ↔ ∀ r ∈ t.rules, r.accepts l = false := by
  simp only [rules, bodyRules, List.forall_mem_cons, List.forall_mem_append]
  unfold role
  split
  · next h => simp [h]
  · next h =>
    rw [Bool.not_eq_true] at h
    split
    · next r hr =>
      have hm := List.mem_of_find?_eq_some hr
      have ha := List.find?_some hr
      simp only [reduceCtorEq, false_iff]
      rintro ⟨-, hs, -⟩
      rw [hs r hm] at ha
      cases ha
    · next hs =>
      have hs' : ∀ r ∈ t.shapes, r.accepts l = false := by simpa using hs
      rw [and_iff_right h, and_iff_right hs']
      simp

/-- Lines that the same rules accept are the same to the table. -/
theorem role_congr {m : Line} (h : ∀ r ∈ t.rules, r.accepts l = r.accepts m) :
    t.role l = t.role m := by
  obtain ⟨hd, hs, hm⟩ : t.declaration.accepts l = t.declaration.accepts m ∧
      (∀ r ∈ t.shapes, r.accepts l = r.accepts m) ∧
        ∀ r ∈ t.markers, r.accepts l = r.accepts m := by
    simpa only [rules, bodyRules, List.forall_mem_cons, List.forall_mem_append] using h
  have ha : t.markers.any (·.accepts l) = t.markers.any (·.accepts m) := by
    rw [Bool.eq_iff_iff]
    simp only [List.any_eq_true]
    constructor
    · rintro ⟨r, hr, h⟩
      exact ⟨r, hr, hm r hr ▸ h⟩
    · rintro ⟨r, hr, h⟩
      exact ⟨r, hr, (hm r hr).symm ▸ h⟩
  rw [role, role, hd, List.find?_congr hs, ha]

theorem isStray_iff :
    t.isStray l = true ↔ isMeaningful l = true ∧ ∀ r ∈ t.rules, r.accepts (trim l) = false := by
  simp [isStray, role_eq_stray_iff]

theorem isStray_eq_false_of_accepts {r : Rule} (hr : r ∈ t.rules)
    (h : r.accepts (trim l) = true) : t.isStray l = false := by
  rw [← Bool.not_eq_true, isStray_iff]
  rintro ⟨-, hs⟩
  rw [hs r hr] at h
  cases h

theorem isStray_eq_false_of_not (h : isMeaningful l = false) : t.isStray l = false := by
  simp [isStray, h]

/-! ## What a line leaves behind -/

variable {s : Seen}

theorem declaration_remember :
    (t.remember s (t.role l)).declaration = (s.declaration || t.declaration.accepts l) := by
  cases h : t.declaration.accepts l with
  | true => rw [role_eq_declaration_iff.2 h]; simp [remember]
  | false =>
    have hr : t.role l ≠ .declaration := by simp [role_eq_declaration_iff, h]
    cases hl : t.role l with
    | declaration => exact absurd hl hr
    | shape | marker | stray => simp [remember]

theorem required_remember :
    (t.remember s (t.role l)).required = (s.required || t.isRequired l) := by
  unfold isRequired
  cases t.role l <;> simp [remember]

/-! ## The pass -/

variable {n : Nat}

theorem scanFrom_of_first_stray {before after : List Line}
    (hb : ∀ m ∈ before, t.isStray m = false) (hl : t.isStray l = true) :
    t.scanFrom n s (before ++ l :: after) = t.strayLine (n + before.length) (trim l) := by
  obtain ⟨hm, hr⟩ : isMeaningful l = true ∧ t.role (trim l) = .stray := by
    simpa [isStray] using hl
  induction before generalizing n s with
  | nil => exact scanFrom_cons_of_stray after hm hr
  | cons m ms ih =>
    obtain ⟨hb₁, hb₂⟩ := List.forall_mem_cons.1 hb
    have he : n + (m :: ms).length = n + 1 + ms.length := by rw [List.length_cons]; omega
    cases hc : isMeaningful m with
    | false => rw [List.cons_append, scanFrom_cons_of_not _ hc, ih hb₂, he]
    | true =>
      have hs : t.role (trim m) ≠ .stray := by simpa [isStray, hc] using hb₁
      rw [List.cons_append, scanFrom_cons_of_ne_stray _ hc hs, ih hb₂, he]

theorem scanFrom_of_no_stray (h : ∀ l ∈ ls, t.isStray l = false) :
    t.scanFrom n s ls = t.conclude
      ⟨s.declaration || (meaningful ls).any t.declaration.accepts,
        s.required || (meaningful ls).any t.isRequired⟩ := by
  induction ls generalizing n s with
  | nil => simp [meaningful]
  | cons l ls ih =>
    obtain ⟨h₁, h₂⟩ := List.forall_mem_cons.1 h
    cases hc : isMeaningful l with
    | false =>
      rw [scanFrom_cons_of_not _ hc, ih h₂]
      simp [meaningful, hc]
    | true =>
      have hs : t.role (trim l) ≠ .stray := by simpa [isStray, hc] using h₁
      rw [scanFrom_cons_of_ne_stray _ hc hs, ih h₂, declaration_remember, required_remember]
      simp [meaningful, hc, Bool.or_assoc]

/-- Lines may be written in another way if they count as before and are the same to the table; the
    finding is the same then, as far as `F` sees no difference in a stray line. -/
theorem apply_scanFrom_map {α : Type} {φ : Line → Line} {F : Finding → α}
    (hm : ∀ l, isMeaningful (φ l) = isMeaningful l)
    (hr : ∀ l ∈ ls, isMeaningful l = true → t.role (trim (φ l)) = t.role (trim l))
    (hF : ∀ n l, F (t.strayLine n (trim (φ l))) = F (t.strayLine n (trim l))) :
    F (t.scanFrom n s (ls.map φ)) = F (t.scanFrom n s ls) := by
  induction ls generalizing n s with
  | nil => rfl
  | cons l ls ih =>
    obtain ⟨hrl, hr⟩ := List.forall_mem_cons.1 hr
    have hml := hm l
    rw [List.map_cons]
    cases hc : isMeaningful l with
    | false =>
      rw [hc] at hml
      rw [scanFrom_cons_of_not _ hc, scanFrom_cons_of_not _ hml, ih hr]
    | true =>
      rw [hc] at hml
      have hrl := hrl hc
      by_cases hs : t.role (trim l) = .stray
      · rw [scanFrom_cons_of_stray _ hc hs, scanFrom_cons_of_stray _ hml (hrl.trans hs), hF]
      · have hs' : t.role (trim (φ l)) ≠ .stray := by rwa [hrl]
        rw [scanFrom_cons_of_ne_stray _ hc hs, scanFrom_cons_of_ne_stray _ hml hs', hrl, ih hr]

/-- **The pass ends at the first stray line**, whatever follows. -/
theorem scan_of_first_stray {before after : List Line}
    (hb : ∀ m ∈ before, t.isStray m = false) (hl : t.isStray l = true) :
    t.scan (before ++ l :: after) = t.strayLine (before.length + 1) (trim l) := by
  rw [scan, scanFrom_of_first_stray hb hl, Nat.add_comm]

/-- **A pass without a stray line asks for the declaration, and then for the required shape.** -/
theorem scan_of_no_stray (h : ∀ l ∈ ls, t.isStray l = false) :
    t.scan ls = t.conclude (t.seen ls) := by
  rw [scan, scanFrom_of_no_stray h]
  simp [start, seen]

/-- Without a stray line, the syntax is not what is at fault. -/
theorem kind_conclude_ne (s : Seen) : (t.conclude s).kind ≠ some .badSyntax := by
  unfold conclude
  split
  · simp [missingDeclaration, Finding.rejected]
  · split
    · simp [missingRequired, Finding.rejected]
    · simp [Finding.accepted]

variable (t) in
theorem no_stray_or_first_stray (ls : List Line) :
    (∀ l ∈ ls, t.isStray l = false) ∨
      ∃ before l after, ls = before ++ l :: after ∧ (∀ m ∈ before, t.isStray m = false) ∧
        t.isStray l = true := by
  cases h : ls.find? t.isStray with
  | none =>
    refine .inl fun l hl => ?_
    simpa using List.find?_eq_none.1 h l hl
  | some l =>
    obtain ⟨hl, before, after, rfl, hb⟩ := List.find?_eq_some_iff_append.1 h
    exact .inr ⟨before, l, after, rfl, by simpa using hb, hl⟩

theorem findIdx_of_first {p : Line → Bool} {before after : List Line}
    (hb : ∀ m ∈ before, p m = false) (hl : p l = true) :
    (before ++ l :: after).findIdx p = before.length := by
  rw [List.findIdx_append, List.findIdx_eq_length_of_false hb, if_neg (Nat.lt_irrefl _),
    List.findIdx_cons, hl]
  exact Nat.zero_add _

/-- The pass names the line of the least index that is stray. -/
theorem scan_of_findIdx_lt (h : ls.findIdx t.isStray < ls.length) :
    t.scan ls = t.strayLine (ls.findIdx t.isStray + 1) (trim ls[ls.findIdx t.isStray]) := by
  obtain ⟨l, hget⟩ : ∃ l, ls[ls.findIdx t.isStray] = l := ⟨_, rfl⟩
  have hf : ls.find? t.isStray = some l := by
    rw [List.find?_eq_getElem?_findIdx, List.getElem?_eq_getElem h, hget]
  obtain ⟨hl, before, after, hls, hb⟩ := List.find?_eq_some_iff_append.1 hf
  have hb' : ∀ m ∈ before, t.isStray m = false := by simpa using hb
  have hi : ls.findIdx t.isStray = before.length := by rw [hls, findIdx_of_first hb' hl]
  calc t.scan ls
      = t.scan (before ++ l :: after) := congrArg t.scan hls
    _ = t.strayLine (before.length + 1) (trim l) := scan_of_first_stray hb' hl
    _ = t.strayLine (ls.findIdx t.isStray + 1) (trim ls[ls.findIdx t.isStray]) := by rw [hget, hi]

/-! ## The parts of a finding go together -/

variable (t) in
/-- Whatever the pass finds can be reported. -/
theorem coherent_scan (ls : List Line) : (t.scan ls).Coherent := by
  rcases t.no_stray_or_first_stray ls with h | ⟨before, l, after, rfl, hb, hl⟩
  · rw [scan_of_no_stray h]
    unfold conclude
    split
    · exact Finding.coherent_rejected (by simp)
    · split
      · exact Finding.coherent_rejected (by simp)
      · exact Finding.coherent_accepted
  · rw [scan_of_first_stray hb hl]
    refine Finding.coherent_rejected fun n hn => ?_
    rw [Option.mem_some_iff] at hn
    omega

end RuleTable

end DiagramLint
