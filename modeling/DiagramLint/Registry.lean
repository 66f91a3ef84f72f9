/-
  The registry of validators.

  A registry holds one validator for a dialect at most, in the order in which their dialects came
  in.

  * `Registry.insert`: a validator replaces the one for its dialect in place, or comes last;
  * `Registry.erase`: the validator for a dialect goes, and its place with it;
  * `Registry.find?`: the validator for a dialect.

  `dialects_insert` and `dialects_erase` say what becomes of the order, `find?_insert` and
  `find?_erase` what becomes of the contents.
-/
import DiagramLint.Validator

namespace DiagramLint

/-- The validators by dialect, in order. -/
structure Registry where
  entries : List Validator
  /-- No dialect has two validators. -/
  nodup : (entries.map (·.dialect)).Nodup

namespace Registry

/-- The dialects that have a validator, in order. -/
def dialects (r : Registry) : List Dialect := r.entries.map (·.dialect)

/-- The validator for a dialect. -/
def find? (r : Registry) (d : Dialect) : Option Validator := r.entries.find? (·.dialect == d)

/-- No validators. -/
def empty : Registry := ⟨[], List.nodup_nil⟩

/-- The entries with the one for the dialect of `v` replaced by `v`. -/
def replace (v : Validator) (vs : List Validator) : List Validator :=
  vs.map fun w => if w.dialect = v.dialect then v else w

theorem map_dialect_replace (v : Validator) (vs : List Validator) :
    (replace v vs).map (·.dialect) = vs.map (·.dialect) := by
  simp only [replace, List.map_map]
  refine List.map_congr_left fun w _ => ?_
  simp only [Function.comp_apply]
  split
  · next h => exact h.symm
  · rfl

/-- The registry with a validator, which replaces the one for its dialect or comes last. -/
def insert (r : Registry) (v : Validator) : Registry :=
  if h : v.dialect ∈ r.dialects then
    ⟨replace v r.entries, by rw [map_dialect_replace]; exact r.nodup⟩
  else
    ⟨r.entries ++ [v], by
      rw [List.map_append, List.map_cons, List.map_nil, List.nodup_append]
      refine ⟨r.nodup, by simp, ?_⟩
      intro a ha b hb e
      rw [List.mem_singleton] at hb
      exact h (hb ▸ e ▸ ha)⟩

/-- The registry without a validator for the dialect. -/
def erase (r : Registry) (d : Dialect) : Registry :=
  ⟨r.entries.filter (·.dialect != d), r.nodup.sublist ((List.filter_sublist).map _)⟩

/-- The registry that the validators make up, a later one replacing an earlier one. -/
def ofList (vs : List Validator) : Registry := vs.foldl insert empty

/-! ## Order -/

theorem nodup_dialects (r : Registry) : r.dialects.Nodup := r.nodup

/-- A validator for a new dialect comes last, and one for a known dialect moves nothing. -/
theorem dialects_insert (r : Registry) (v : Validator) :
    (r.insert v).dialects =
      if v.dialect ∈ r.dialects then r.dialects else r.dialects ++ [v.dialect] := by
  unfold insert
  split
  · exact map_dialect_replace v r.entries
  · simp [dialects]

theorem dialects_erase (r : Registry) (d : Dialect) :
    (r.erase d).dialects = r.dialects.filter (· != d) := by
  simp only [dialects, erase, List.filter_map]
  rfl

/-! ## Contents -/

theorem find?_isSome_iff {r : Registry} {d : Dialect} :
    (r.find? d).isSome = true ↔ d ∈ r.dialects := by
  simp [find?, dialects]

theorem dialect_of_find? {r : Registry} {d : Dialect} {v : Validator} (h : r.find? d = some v) :
    v.dialect = d := by
  have h' := List.find?_some h
  exact beq_iff_eq.1 h'

theorem find?_replace (v : Validator) (d : Dialect) (vs : List Validator) :
    (replace v vs).find? (·.dialect == d) =
      (vs.find? (·.dialect == d)).map fun w => if w.dialect = v.dialect then v else w := by
  induction vs with
  | nil => rfl
  | cons w vs ih =>
    rw [replace] at ih ⊢
    rw [List.map_cons, List.find?_cons, List.find?_cons, ih]
    by_cases h : w.dialect = v.dialect
    · rw [if_pos h, h]
      cases (v.dialect == d) <;> simp [h]
    · rw [if_neg h]
      cases (w.dialect == d) <;> simp [h]

/-- A validator is found for its dialect from now on, and the others stay. -/
theorem find?_insert (r : Registry) (v : Validator) (d : Dialect) :
    (r.insert v).find? d = if v.dialect = d then some v else r.find? d := by
  unfold insert find?
  split
  · next h =>
    simp only [find?_replace]
    by_cases hd : v.dialect = d
    · subst hd
      rw [if_pos rfl]
      obtain ⟨w, hw⟩ := Option.isSome_iff_exists.1 (find?_isSome_iff.2 h)
      have hwd := dialect_of_find? hw
      unfold find? at hw
      rw [hw, Option.map_some, if_pos hwd]
    · rw [if_neg hd]
      cases hf : r.entries.find? (·.dialect == d) with
      | none => rfl
      | some w =>
        have hwd : w.dialect = d := dialect_of_find? hf
        rw [Option.map_some, if_neg (fun e : w.dialect = v.dialect => hd (e.symm.trans hwd))]
  · next h =>
    rw [List.find?_append]
    by_cases hd : v.dialect = d
    · subst hd
      have : r.entries.find? (·.dialect == v.dialect) = none := by
        rw [List.find?_eq_none]
        intro w hw e
        exact h (List.mem_map.2 ⟨w, hw, beq_iff_eq.1 e⟩)
      simp [this]
    · simp [hd]

theorem find?_erase (r : Registry) (d e : Dialect) :
    (r.erase d).find? e = if d = e then none else r.find? e := by
  unfold erase find?
  simp only [List.find?_filter]
  by_cases hd : d = e
  · subst hd
    rw [if_pos rfl, List.find?_eq_none]
    intro w _
    simp
  · rw [if_neg hd]
    congr 1
    funext w
    by_cases hw : w.dialect = e
    · subst hw
      simp [Ne.symm hd]
    · simp [hw]

end Registry

end DiagramLint
