/-
  The registry of an engine as the outcome of its history.

  Only validators that are supplied and dialects that are removed change a registry.  The history of
  an engine lists these changes: the validators that it was made with, and then what its commands
  ask for.

  * `Change` and `Registry.replay`: a change, and the registry that a history leads to;
  * `History.Holds h v`: `v` is the last validator for its dialect, which has not been removed since;
  * `History.Lists h d`: a validator for `d` was supplied, and `d` has not been removed since;
  * `History.EntersAt h d n`: the change number `n` supplies a validator for `d`, which is not listed
    until then;
  * `registry_run`: the registry after some commands is the one that the history leads to.

  `find?_replay`, `mem_dialects_replay` and `pairwise_replay` say what the registry holds and in
  which order.
-/
import Mathlib.Data.List.Induction
import DiagramLint.Session

namespace DiagramLint

/-! ## Changes -/

/-- What changes a registry. -/
inductive Change where
  /-- A validator is supplied. -/
  | put (v : Validator)
  /-- A dialect is removed. -/
  | drop (d : Dialect)

/-- The dialect that a change is about. -/
def Change.dialect : Change → Dialect
  | put v => v.dialect
  | drop d => d

/-- Some changes, one after another. -/
abbrev History := List Change

namespace Registry

/-- The registry after a change. -/
def apply (r : Registry) : Change → Registry
  | .put v => r.insert v
  | .drop d => r.erase d

/-- The registry that a history leads to. -/
def replay (h : History) : Registry := h.foldl apply empty

theorem replay_append (h : History) (c : Change) : replay (h ++ [c]) = (replay h).apply c := by
  simp [replay]

theorem ofList_eq_replay (vs : List Validator) : ofList vs = replay (vs.map .put) := by
  rw [replay, List.foldl_map]
  rfl

theorem erase_of_notMem {r : Registry} {d : Dialect} (h : d ∉ r.dialects) : r.erase d = r := by
  obtain ⟨entries, nodup⟩ := r
  unfold erase
  congr 1
  rw [List.filter_eq_self]
  intro v hv
  have hd : v.dialect ≠ d := fun e => h (List.mem_map.2 ⟨v, hv, e⟩)
  simpa using hd

end Registry

/-! ## What a history says -/

namespace History

/-- `v` is the last validator that was supplied for its dialect, and the dialect has not been removed
    since. -/
def Holds (h : History) (v : Validator) : Prop :=
  ∃ h₁ h₂, h = h₁ ++ .put v :: h₂ ∧ ∀ c ∈ h₂, c.dialect ≠ v.dialect

/-- A validator was supplied for the dialect, and the dialect has not been removed since. -/
def Lists (h : History) (d : Dialect) : Prop :=
  ∃ h₁ v h₂, h = h₁ ++ .put v :: h₂ ∧ v.dialect = d ∧ .drop d ∉ h₂

/-- Change number `n` supplies a validator for the dialect, which is not listed until then. -/
def EntersAt (h : History) (d : Dialect) (n : Nat) : Prop :=
  ∃ h₁ v h₂, h = h₁ ++ .put v :: h₂ ∧ h₁.length = n ∧ v.dialect = d ∧ ¬ Lists h₁ d

/-- Change number `n` is the last one by which the dialect enters. -/
def LastEntersAt (h : History) (d : Dialect) (n : Nat) : Prop :=
  EntersAt h d n ∧ ∀ k, EntersAt h d k → k ≤ n

variable {h : History} {c : Change} {d : Dialect} {v : Validator} {n : Nat}

theorem append_eq_append_cons_iff {a : Change} {h₁ h₂ : History} :
    h ++ [c] = h₁ ++ a :: h₂ ↔
      (h₂ = [] ∧ h = h₁ ∧ c = a) ∨ ∃ h₃, h₂ = h₃ ++ [c] ∧ h = h₁ ++ a :: h₃ := by
  rcases List.eq_nil_or_concat h₂ with rfl | ⟨h₃, b, rfl⟩
  · simp
  · rw [List.concat_eq_append, ← List.cons_append, ← List.append_assoc]
    constructor
    · intro he
      obtain ⟨rfl, hb⟩ := List.append_inj' he rfl
      cases hb
      exact .inr ⟨h₃, rfl, rfl⟩
    · rintro (⟨hn, -⟩ | ⟨h₄, hb, rfl⟩)
      · simp at hn
      · obtain ⟨rfl, hc⟩ := List.append_inj' hb rfl
        cases hc
        rfl

theorem holds_append_iff :
    Holds (h ++ [c]) v ↔ c = .put v ∨ (Holds h v ∧ c.dialect ≠ v.dialect) := by
  simp only [Holds, append_eq_append_cons_iff]
  constructor
  · rintro ⟨h₁, h₂, ⟨rfl, rfl, rfl⟩ | ⟨h₃, rfl, rfl⟩, hn⟩
    · exact .inl rfl
    · rw [List.forall_mem_append] at hn
      exact .inr ⟨⟨h₁, h₃, rfl, hn.1⟩, hn.2 c (List.mem_singleton_self c)⟩
  · rintro (rfl | ⟨⟨h₁, h₂, rfl, hn⟩, hc⟩)
    · exact ⟨h, [], .inl ⟨rfl, rfl, rfl⟩, by simp⟩
    · refine ⟨h₁, h₂ ++ [c], .inr ⟨h₂, rfl, rfl⟩, ?_⟩
      rw [List.forall_mem_append]
      exact ⟨hn, by simpa using hc⟩

theorem lists_append_iff :
    Lists (h ++ [c]) d ↔ (∃ v, c = .put v ∧ v.dialect = d) ∨ (Lists h d ∧ c ≠ .drop d) := by
  simp only [Lists, append_eq_append_cons_iff]
  constructor
  · rintro ⟨h₁, v, h₂, ⟨rfl, rfl, rfl⟩ | ⟨h₃, rfl, rfl⟩, hv, hn⟩
    · exact .inl ⟨v, rfl, hv⟩
    · simp only [List.mem_append, List.mem_singleton, not_or] at hn
      exact .inr ⟨⟨h₁, v, h₃, rfl, hv, hn.1⟩, fun e => hn.2 e.symm⟩
  · rintro (⟨v, rfl, hv⟩ | ⟨⟨h₁, v, h₂, rfl, hv, hn⟩, hc⟩)
    · exact ⟨h, v, [], .inl ⟨rfl, rfl, rfl⟩, hv, by simp⟩
    · refine ⟨h₁, v, h₂ ++ [c], .inr ⟨h₂, rfl, rfl⟩, hv, ?_⟩
      simp only [List.mem_append, List.mem_singleton, not_or]
      exact ⟨hn, fun e => hc e.symm⟩

theorem entersAt_append_iff :
    EntersAt (h ++ [c]) d n ↔
      EntersAt h d n ∨ (n = h.length ∧ (∃ v, c = .put v ∧ v.dialect = d) ∧ ¬ Lists h d) := by
  simp only [EntersAt, append_eq_append_cons_iff]
  constructor
  · rintro ⟨h₁, v, h₂, ⟨rfl, rfl, rfl⟩ | ⟨h₃, rfl, rfl⟩, hn, hv, hl⟩
    · exact .inr ⟨hn.symm, ⟨v, rfl, hv⟩, hl⟩
    · exact .inl ⟨h₁, v, h₃, rfl, hn, hv, hl⟩
  · rintro (⟨h₁, v, h₂, rfl, hn, hv, hl⟩ | ⟨rfl, ⟨v, rfl, hv⟩, hl⟩)
    · exact ⟨h₁, v, h₂ ++ [c], .inr ⟨h₂, rfl, rfl⟩, hn, hv, hl⟩
    · exact ⟨h, v, [], .inl ⟨rfl, rfl, rfl⟩, rfl, hv, hl⟩

theorem lt_length_of_entersAt (he : EntersAt h d n) : n < h.length := by
  obtain ⟨h₁, v, h₂, rfl, rfl, -⟩ := he
  simp

/-- A dialect that enters by the last change does so at its place. -/
theorem lastEntersAt_append_of_put (hv : c = .put v) (hl : ¬ Lists h v.dialect) :
    LastEntersAt (h ++ [c]) v.dialect h.length := by
  constructor
  · exact entersAt_append_iff.2 (.inr ⟨rfl, ⟨v, hv, rfl⟩, hl⟩)
  · intro k hk
    rcases entersAt_append_iff.1 hk with hk | ⟨rfl, -⟩
    · exact Nat.le_of_lt (lt_length_of_entersAt hk)
    · exact Nat.le_refl _

/-- Every other dialect keeps its place. -/
theorem lastEntersAt_append (hn : LastEntersAt h d n)
    (hc : (∃ v, c = .put v ∧ v.dialect = d) → Lists h d) : LastEntersAt (h ++ [c]) d n := by
  constructor
  · exact entersAt_append_iff.2 (.inl hn.1)
  · intro k hk
    rcases entersAt_append_iff.1 hk with hk | ⟨-, hv, hl⟩
    · exact hn.2 k hk
    · exact absurd (hc hv) hl

theorem exists_lastEntersAt (hl : Lists h d) : ∃ n, LastEntersAt h d n := by
  induction h using List.reverseRecOn with
  | nil =>
    obtain ⟨h₁, v, h₂, hn, -⟩ := hl
    simp at hn
  | append_singleton h c ih =>
    by_cases hd : Lists h d
    · obtain ⟨n, hn⟩ := ih hd
      exact ⟨n, lastEntersAt_append hn fun _ => hd⟩
    · rcases lists_append_iff.1 hl with ⟨v, hv, rfl⟩ | ⟨hd', -⟩
      · exact ⟨_, lastEntersAt_append_of_put hv hd⟩
      · exact absurd hd' hd

end History

/-! ## What the registry holds -/

namespace Registry

open History

variable {h : History} {d : Dialect} {v : Validator}

/-- **The validator for a dialect is the one supplied last**, if there is one. -/
theorem find?_replay : (replay h).find? d = some v ↔ Holds h v ∧ v.dialect = d := by
  induction h using List.reverseRecOn with
  | nil =>
    constructor
    · rintro ⟨⟩
    · rintro ⟨⟨h₁, h₂, hn, -⟩, -⟩
      simp at hn
  | append_singleton h c ih =>
    rw [replay_append, holds_append_iff]
    cases c with
    | put w =>
      simp only [apply, find?_insert, Change.put.injEq, Change.dialect]
      split
      · next hw =>
        subst hw
        constructor
        · rintro ⟨⟩
          exact ⟨.inl rfl, rfl⟩
        · rintro ⟨rfl | ⟨-, hne⟩, hv⟩
          · rfl
          · exact absurd hv.symm hne
      · next hw =>
        rw [ih]
        constructor
        · rintro ⟨hh, rfl⟩
          exact ⟨.inr ⟨hh, hw⟩, rfl⟩
        · rintro ⟨rfl | ⟨hh, -⟩, hv⟩
          · exact absurd hv hw
          · exact ⟨hh, hv⟩
    | drop f =>
      simp only [apply, find?_erase, reduceCtorEq, false_or, Change.dialect]
      split
      · next hf =>
        subst hf
        constructor
        · rintro ⟨⟩
        · rintro ⟨⟨-, hne⟩, hv⟩
          exact absurd hv.symm hne
      · next hf =>
        rw [ih]
        constructor
        · rintro ⟨hh, rfl⟩
          exact ⟨⟨hh, hf⟩, rfl⟩
        · rintro ⟨⟨hh, -⟩, hv⟩
          exact ⟨hh, hv⟩

/-- **The dialects with a validator are those supplied and not removed since.** -/
theorem mem_dialects_replay : d ∈ (replay h).dialects ↔ Lists h d := by
  induction h using List.reverseRecOn with
  | nil =>
    constructor
    · rintro ⟨⟩
    · rintro ⟨h₁, v, h₂, hn, -⟩
      simp at hn
  | append_singleton h c ih =>
    rw [replay_append, lists_append_iff, ← ih]
    cases c with
    | put w =>
      simp only [apply, dialects_insert, Change.put.injEq, exists_eq_left', ne_eq, reduceCtorEq,
        not_false_eq_true, and_true]
      split
      · next hw =>
        constructor
        · exact .inr
        · rintro (rfl | hd)
          · exact hw
          · exact hd
      · simp [or_comm, eq_comm]
    | drop f =>
      simp only [apply, dialects_erase, List.mem_filter, bne_iff_ne, ne_eq, Change.drop.injEq,
        reduceCtorEq, false_and, exists_false, false_or, @eq_comm _ d f]

/-- **The dialects stand in the order in which they last entered.** -/
theorem pairwise_replay (h : History) : (replay h).dialects.Pairwise fun a b =>
    ∃ m n, LastEntersAt h a m ∧ LastEntersAt h b n ∧ m < n := by
  induction h using List.reverseRecOn with
  | nil => exact .nil
  | append_singleton h c ih =>
    -- who is listed already keeps its place, whatever the change is
    have hold : (replay h).dialects.Pairwise fun a b =>
        ∃ m n, LastEntersAt (h ++ [c]) a m ∧ LastEntersAt (h ++ [c]) b n ∧ m < n := by
      refine ih.imp_of_mem fun {a b} ha hb ⟨m, n, hm, hn, hlt⟩ => ⟨m, n, ?_, ?_, hlt⟩
      · exact lastEntersAt_append hm fun _ => mem_dialects_replay.1 ha
      · exact lastEntersAt_append hn fun _ => mem_dialects_replay.1 hb
    rw [replay_append]
    cases c with
    | put w =>
      rw [apply, dialects_insert]
      split
      · exact hold
      · next hw =>
        rw [mem_dialects_replay] at hw
        refine List.pairwise_append.2 ⟨hold, List.pairwise_singleton _ _, fun a ha b hb => ?_⟩
        rw [List.mem_singleton] at hb
        subst hb
        have hl := mem_dialects_replay.1 ha
        obtain ⟨m, hm⟩ := exists_lastEntersAt hl
        exact ⟨m, h.length, lastEntersAt_append hm fun _ => hl,
          lastEntersAt_append_of_put rfl hw, lt_length_of_entersAt hm.1⟩
    | drop f =>
      rw [apply, dialects_erase]
      exact hold.filter _

end Registry

/-! ## Commands -/

/-- The change that a command asks for; most commands ask for none. -/
def Command.change? : Command → Option Change
  | .add offer => offer.validator.toOption.map .put
  | .remove name => (Dialect.read name).toOption.map .drop
  | _ => none

/-- The command that supplies a validator. -/
def Command.supply (v : Validator) : Command := .add ⟨v.dialect.name, fun _ => v.run⟩

theorem Command.change?_supply (v : Validator) : (supply v).change? = some (.put v) := by
  have hd : Dialect.read v.dialect.name = .ok v.dialect := Dialect.read_eq_ok_iff.2 rfl
  simp [supply, change?, Offer.validator, hd, Except.map, Except.toOption]

namespace Engine

variable {e : Engine} {c : Command}

/-- The history of an engine that was made with some validators, after some commands. -/
def history (vs : List Validator) (cs : List Command) : History :=
  vs.map .put ++ cs.filterMap Command.change?

/-- A command that asks for no change leaves the engine as it is. -/
theorem fst_step_of_change?_eq_none (h : c.change? = none) : (e.step c).1 = e := by
  cases c with
  | validate | batch | realtime | stats | http => rfl
  | add offer =>
    cases hv : offer.validator with
    | ok v => simp [Command.change?, hv, Except.toOption] at h
    | error err => simp [step, hv]
  | remove name =>
    cases hd : Dialect.read name with
    | ok d => simp [Command.change?, hd, Except.toOption] at h
    | error err => simp [step, hd]

/-- Every other command changes the registry as it asks for. -/
theorem registry_step_of_change?_eq_some {ch : Change} (h : c.change? = some ch) :
    (e.step c).1.registry = e.registry.apply ch := by
  cases c with
  | validate | batch | realtime | stats | http => cases h
  | add offer =>
    cases hv : offer.validator with
    | ok v =>
      simp only [Command.change?, hv, Except.toOption, Option.map_some, Option.some.injEq] at h
      subst h
      simp [step, hv, insert, Registry.apply]
    | error err => simp [Command.change?, hv, Except.toOption] at h
  | remove name =>
    cases hd : Dialect.read name with
    | ok d =>
      simp only [Command.change?, hd, Except.toOption, Option.map_some, Option.some.injEq] at h
      subst h
      simp [step, hd, erase, Registry.apply]
    | error err => simp [Command.change?, hd, Except.toOption] at h

/-- A command that fails asks for no change. -/
theorem change?_eq_none_of_error {err : CommandError} (h : (e.step c).2.value = .error err) :
    c.change? = none := by
  cases c with
  | validate | batch | realtime | stats | http => rfl
  | add offer =>
    cases hv : offer.validator with
    | ok v => simp [step, hv] at h
    | error err => simp [Command.change?, hv, Except.toOption]
  | remove name =>
    cases hd : Dialect.read name with
    | ok d => simp [step, hd] at h
    | error err => simp [Command.change?, hd, Except.toOption]

/-- A validator is not supplied under a name that is that of no dialect. -/
theorem step_add_of_error (offer : Offer) (h : ∀ d : Dialect, offer.dialect ≠ d.name) :
    e.step (.add offer) = (e, ⟨.error (.name (.dialect offer.dialect)), []⟩) := by
  have hv : offer.validator = .error (.dialect offer.dialect) := by
    rw [Offer.validator, Dialect.read_eq_error_iff.2 h]
    rfl
  rw [step, hv]

theorem step_remove_of_error {name : String} (h : ∀ d : Dialect, name ≠ d.name) :
    e.step (.remove name) = (e, ⟨.error (.name (.dialect name)), []⟩) := by
  rw [step, Dialect.read_eq_error_iff.2 h]

theorem registry_run_eq_foldl (e : Engine) (cs : List Command) :
    (e.run cs).1.registry = (cs.filterMap Command.change?).foldl Registry.apply e.registry := by
  induction cs generalizing e with
  | nil => rfl
  | cons c cs ih =>
    rw [fst_run_cons, ih, List.filterMap_cons]
    cases hc : c.change? with
    | none => rw [fst_step_of_change?_eq_none hc]
    | some ch => rw [registry_step_of_change?_eq_some hc, List.foldl_cons]

/-- **The registry after some commands is the one that the history leads to.** -/
theorem registry_run (vs : List Validator) (cs : List Command) :
    ((ofValidators vs).run cs).1.registry = .replay (history vs cs) := by
  rw [registry_run_eq_foldl, history, Registry.replay, List.foldl_append]
  congr 1
  exact Registry.ofList_eq_replay vs

theorem run_supply (vs : List Validator) :
    ((ofValidators []).run (vs.map .supply)).1 = ofValidators vs := by
  have hc : (vs.map Command.supply).filterMap Command.change? = vs.map .put := by
    have hs : Command.change? ∘ Command.supply = some ∘ .put := funext Command.change?_supply
    rw [List.filterMap_map, hs, List.filterMap_eq_map]
  have hr := registry_run [] (vs.map .supply)
  rw [history, hc, List.map_nil, List.nil_append, ← Registry.ofList_eq_replay] at hr
  exact congrArg Engine.mk hr

/-- **The registry follows the history.**  After any commands the dialects that are listed are
    distinct; they are those for which a validator was supplied and which have not been removed
    since, in the order in which they last entered while they were not listed; each has the
    validator that was last supplied for it.  Commands that fail, that remove a dialect without a
    validator or that ask for no change leave the engine as it is, and a name that is that of no
    dialect makes a command fail.  To make an engine with some validators is to supply them to an
    empty one. -/
theorem registry_follows_history (vs : List Validator) (cs : List Command) :
    let e := ((ofValidators vs).run cs).1
    let h := history vs cs
    e.stats.dialects.Nodup ∧
    (∀ d, d ∈ e.stats.dialects ↔ History.Lists h d) ∧
    (e.stats.dialects.Pairwise fun a b =>
      ∃ m n, History.LastEntersAt h a m ∧ History.LastEntersAt h b n ∧ m < n) ∧
    (∀ d v, e.registry.find? d = some v ↔ History.Holds h v ∧ v.dialect = d) ∧
    (∀ c err, (e.step c).2.value = .error err → (e.step c).1 = e) ∧
    (∀ d, d ∉ e.stats.dialects → (e.step (.remove d.name)).1 = e) ∧
    (∀ c, (∀ o, c ≠ .add o) → (∀ name, c ≠ .remove name) → (e.step c).1 = e) ∧
    (∀ name, (∀ d : Dialect, name ≠ d.name) →
      (∀ behaviour, e.step (.add ⟨name, behaviour⟩) = (e, ⟨.error (.name (.dialect name)), []⟩)) ∧
      e.step (.remove name) = (e, ⟨.error (.name (.dialect name)), []⟩)) ∧
    ((ofValidators []).run (vs.map .supply)).1 = ofValidators vs := by
  intro e h
  have hr : e.registry = .replay h := registry_run vs cs
  have hd : e.stats.dialects = (Registry.replay h).dialects := congrArg Registry.dialects hr
  refine ⟨e.registry.nodup_dialects, ?_, ?_, ?_, ?_, ?_, ?_, ?_, run_supply vs⟩
  · intro d
    rw [hd]
    exact Registry.mem_dialects_replay
  · rw [hd]
    exact Registry.pairwise_replay h
  · intro d v
    rw [hr]
    exact Registry.find?_replay
  · intro c err hc
    exact fst_step_of_change?_eq_none (change?_eq_none_of_error hc)
  · intro d hn
    have hn' : Dialect.read d.name = .ok d := Dialect.read_eq_ok_iff.2 rfl
    have hs : (e.step (.remove d.name)).1 = e.erase d := by
      simp [step, hn']
    rw [hs, erase, Registry.erase_of_notMem hn]
  · intro c ha hm
    cases c with
    | validate | batch | realtime | stats | http => rfl
    | add o => exact absurd rfl (ha o)
    | remove name => exact absurd rfl (hm name)
  · intro name hname
    exact ⟨fun behaviour => step_add_of_error ⟨name, behaviour⟩ hname, step_remove_of_error hname⟩

end Engine

end DiagramLint
