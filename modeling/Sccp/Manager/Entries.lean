import Sccp.Manager.Step

/-!
# SSN state manager: what an entry is never changes

`AddEntry` allocates each `SSNEntry` at a fresh pointer and no operation frees one, and every
`store` of the handlers and of the SST callback writes only an entry's state and its test fields.
So in every interleaving an entry keeps its `SSN`, `PointCode`, `IsLocal` and `MaxTestRetries` for
good (`entry_identity_stable`), and the registry maps each `(pc, ssn)` to an entry with that point
code and SSN (`registry_entry_matches_key`). Unlike the lock discipline, this needs no argument
about the order of operations: it holds of every operation any goroutine can perform.
-/
namespace Sccp.Manager

/-- What an entry is: the fields no `store` of the source writes. -/
structure SSNEntry.SameIdentity (e e' : SSNEntry) : Prop where
  ssn : e'.ssn = e.ssn
  pointCode : e'.pointCode = e.pointCode
  isLocal : e'.isLocal = e.isLocal
  maxTestRetries : e'.maxTestRetries = e.maxTestRetries

namespace SSNEntry.SameIdentity

theorem refl (e : SSNEntry) : e.SameIdentity e := ⟨rfl, rfl, rfl, rfl⟩

theorem trans {e₁ e₂ e₃ : SSNEntry} (h₁ : e₁.SameIdentity e₂) (h₂ : e₂.SameIdentity e₃) :
    e₁.SameIdentity e₃ :=
  ⟨h₂.ssn.trans h₁.ssn, h₂.pointCode.trans h₁.pointCode, h₂.isLocal.trans h₁.isLocal,
    h₂.maxTestRetries.trans h₁.maxTestRetries⟩

end SSNEntry.SameIdentity

/-- An operation that leaves what each entry is alone: a `store` keeps the identity. -/
def Op.KeepsIdentity : Op → Prop
  | .store _ f => ∀ e : SSNEntry, e.SameIdentity (f e)
  | _ => True

/-- A program every operation of which leaves what each entry is alone. -/
abbrev KeepsIdentity {α : Type} (x : Prog α) : Prop := x.Every Op.KeepsIdentity

/-- An operation whose effects leave what each entry is alone keeps the identity. -/
theorem Op.Effect.keepsIdentity {states emits : Bool} {o : Op} (h : o.Effect states emits) :
    o.KeepsIdentity := by
  cases o
  case store => exact fun e => ⟨(h e).1, (h e).2.1, (h e).2.2.1, (h e).2.2.2.1⟩
  all_goals trivial

theorem Call.keepsIdentity_prog (cfg : Config) (c : Call) : KeepsIdentity (c.prog cfg) :=
  (Call.effect_prog cfg c).mono fun _ => Op.Effect.keepsIdentity

/-- The timer callback writes only the retry count, the interval and the timer. -/
theorem keepsIdentity_sstCallback (cfg : Config) {p : Nat} : KeepsIdentity (sstCallback cfg p) :=
  (effects_programs cfg p 0 0).1.mono fun _ => Op.Effect.keepsIdentity

section Perform

variable {cfg : Config} {w : World} {i : Nat} {o : Op} {r : World × o.Ret}

/-- What one operation does to the entries and the registry: `AddEntry` allocates, `store`
rewrites one entry, and nothing else touches them. -/
theorem perform_entry_cases (h : w.perform cfg i o = some r) :
    (∃ key l, r.1 = w.addEntry cfg key l) ∨ (∃ q f, o = .store q f ∧ r.1 = w.modifyEntry q f) ∨
      (r.1.entries = w.entries ∧ r.1.registry = w.registry ∧ r.1.nextEntry = w.nextEntry) := by
  cases o with
  | addEntry key l => cases h; exact .inl ⟨key, l, rfl⟩
  | store q f =>
    obtain ⟨_, -, rfl⟩ := Option.map_eq_some'.mp h
    exact .inr (.inl ⟨q, f, rfl, rfl⟩)
  | stopTimer t =>
    refine .inr (.inr ?_)
    rcases w.stopTimer_eq_some h with h | ⟨tm, -, h⟩ <;> rw [h] <;> exact ⟨rfl, rfl, rfl⟩
  | _ =>
    refine .inr (.inr ?_)
    simp only [World.perform, Option.map_eq_some'] at h
    first
      | (obtain ⟨_, -, rfl⟩ := h; exact ⟨rfl, rfl, rfl⟩)
      | (split_ifs at h; cases h; exact ⟨rfl, rfl, rfl⟩)

/-- An operation that keeps the identity keeps every allocated entry, and what it is, as long as
no entry lies at or past `nextEntry`. -/
theorem perform_sameIdentity (h : w.perform cfg i o = some r) (ho : o.KeepsIdentity)
    (hf : ∀ q, w.nextEntry ≤ q → w.entries q = none) {p : Nat} {e : SSNEntry}
    (he : w.entries p = some e) : ∃ e', r.1.entries p = some e' ∧ e.SameIdentity e' := by
  rcases perform_entry_cases h with ⟨key, l, hr⟩ | ⟨q, f, rfl, hr⟩ | ⟨hr, -, -⟩ <;> rw [hr]
  · have hp : p ≠ w.nextEntry := fun hp => by simp [hf _ (le_of_eq hp.symm)] at he
    exact ⟨e, by simp [Function.update_noteq hp, he], .refl e⟩
  · by_cases hp : p = q
    · subst hp; exact ⟨f e, by simp [he], ho e⟩
    · exact ⟨e, by simp [Function.update_noteq hp, he], .refl e⟩
  · exact ⟨e, he, .refl e⟩

end Perform

/-- Every goroutine's code keeps what each entry is, no entry lies at or past `nextEntry`, and
the registry maps each key to an entry with that point code and SSN. -/
structure EntryInv (s : Sys) : Prop where
  tasks : ∀ j prog, s.tasks j = some prog → KeepsIdentity prog
  freshEntry : ∀ p, s.world.nextEntry ≤ p → s.world.entries p = none
  registry : ∀ key p, s.world.registry key = some p →
    ∃ e, s.world.entries p = some e ∧ (e.pointCode, e.ssn) = key

namespace EntryInv

variable {cfg : Config} {s s' : Sys}

theorem init : EntryInv Sys.init where
  tasks _ _ h := by cases h
  freshEntry _ _ := rfl
  registry _ _ h := by cases h

theorem spawn (hs : EntryInv s) {prog : Prog Reply} (hp : KeepsIdentity prog) :
    EntryInv (s.spawn prog) where
  tasks j prog' hj := by
    by_cases hjn : j = s.nextTask
    · subst hjn
      simp only [Sys.spawn, Function.update_same, Option.some.injEq] at hj
      exact hj ▸ hp
    · exact hs.tasks j prog' (by simpa [Sys.spawn, Function.update_noteq hjn] using hj)
  freshEntry := hs.freshEntry
  registry := hs.registry

/-- One operation of goroutine `i`. -/
theorem exec (hs : EntryInv s) {i : Nat} {o : Op} {next : o.Ret → Prog Reply}
    (hi : s.tasks i = some (.op o next)) {r : World × o.Ret}
    (hr : s.world.perform cfg i o = some r) :
    EntryInv { s with world := r.1, tasks := Function.update s.tasks i (some (next r.2)) } where
  tasks j prog hj := by
    have ⟨_, hnext⟩ := (hs.tasks i _ hi).of_op
    by_cases hji : j = i
    · subst hji
      simp only [Function.update_same, Option.some.injEq] at hj
      exact hj ▸ hnext r.2
    · exact hs.tasks j prog (by simpa [Function.update_noteq hji] using hj)
  freshEntry q hq := by
    rcases perform_entry_cases hr with ⟨key, l, h⟩ | ⟨q', f, -, h⟩ | ⟨he, -, hn⟩
    · simp only [h, World.addEntry_nextEntry, World.addEntry_entries] at hq ⊢
      rw [Function.update_noteq (by omega)]
      exact hs.freshEntry q (by omega)
    · simp only [h, World.modifyEntry_nextEntry, World.modifyEntry_entries] at hq ⊢
      by_cases hqq : q = q'
      · subst hqq; simp [hs.freshEntry q hq]
      · rw [Function.update_noteq hqq]; exact hs.freshEntry q hq
    · rw [he]; exact hs.freshEntry q (hn ▸ hq)
  registry key p hp := by
    rcases perform_entry_cases hr with ⟨key', l, h⟩ | ⟨q, f, rfl, h⟩ | ⟨he, hreg, -⟩
    · simp only [h, World.addEntry_registry, World.addEntry_entries, Function.update_apply] at hp ⊢
      split_ifs at hp with hk
      · subst hk; cases hp; simp [SSNEntry.new]
      · obtain ⟨e, he, hek⟩ := hs.registry key p hp
        have hpn : p ≠ s.world.nextEntry := fun hpn => by simp [hs.freshEntry _ hpn.ge] at he
        exact ⟨e, by rw [if_neg hpn, he], hek⟩
    · obtain ⟨e, he, hek⟩ := hs.registry key p (by simpa [h] using hp)
      obtain ⟨e', he', hid⟩ := perform_sameIdentity hr (hs.tasks i _ hi).of_op.1 hs.freshEntry he
      exact ⟨e', he', by rw [hid.pointCode, hid.ssn, hek]⟩
    · rw [hreg] at hp
      rw [he]
      exact hs.registry key p hp

theorem step (hs : EntryInv s) {a : Action} (h : s.step cfg a = some s') : EntryInv s' := by
  cases a with
  | call c =>
    obtain rfl := Sys.step_call cfg h
    exact hs.spawn (Call.keepsIdentity_prog cfg c)
  | fire t =>
    obtain ⟨tm, -, -, rfl⟩ := Sys.step_fire cfg h
    exact (show EntryInv { s with world := s.world.setTimer _ _ } from
      ⟨hs.tasks, hs.freshEntry, hs.registry⟩).spawn (keepsIdentity_sstCallback cfg)
  | exec i =>
    obtain ⟨o, next, r, hi, hr, rfl⟩ := Sys.step_exec cfg h
    exact hs.exec hi hr

/-- No step frees an entry or changes what it is. -/
theorem step_sameIdentity (hs : EntryInv s) {a : Action} (h : s.step cfg a = some s') {p : Nat}
    {e : SSNEntry} (he : s.world.entries p = some e) :
    ∃ e', s'.world.entries p = some e' ∧ e.SameIdentity e' := by
  cases a with
  | call c => obtain rfl := Sys.step_call cfg h; exact ⟨e, he, .refl e⟩
  | fire t => obtain ⟨tm, -, -, rfl⟩ := Sys.step_fire cfg h; exact ⟨e, he, .refl e⟩
  | exec i =>
    obtain ⟨o, next, r, hi, hr, rfl⟩ := Sys.step_exec cfg h
    exact perform_sameIdentity hr (hs.tasks i _ hi).of_op.1 hs.freshEntry he

end EntryInv

theorem reachable_entryInv {cfg : Config} {s : Sys} (hr : Reachable cfg s) : EntryInv s := by
  induction hr with
  | refl => exact EntryInv.init
  | tail _ hstep ih =>
    obtain ⟨a, ha⟩ := hstep
    exact ih.step ha

/-- In every interleaving, the registry maps each `(pc, ssn)` to an existing entry whose
`PointCode` and `SSN` are `pc` and `ssn`. -/
theorem registry_entry_matches_key {cfg : Config} {s : Sys} (hr : Reachable cfg s) {pc : UInt16}
    {ssn : UInt8} {p : Nat} (h : s.world.registry (pc, ssn) = some p) :
    ∃ e, s.world.entries p = some e ∧ e.pointCode = pc ∧ e.ssn = ssn := by
  obtain ⟨e, he, hk⟩ := (reachable_entryInv hr).registry _ p h
  exact ⟨e, he, (Prod.mk.inj hk).1, (Prod.mk.inj hk).2⟩

/-- After an SSA for `(10, 7)` the registry maps it to entry 0, made for `(10, 7)`. -/
theorem registry_entry_matches_key_ssa :
    ∃ s, seqRun Config.default [.call (.handleSSA 10 7)] Sys.init = some s ∧
      s.world.registry (10, 7) = some 0 ∧
      ∃ e, s.world.entries 0 = some e ∧ e.pointCode = 10 ∧ e.ssn = 7 := by
  have hc : (seqRun Config.default [.call (.handleSSA 10 7)] Sys.init).map
      (fun s => s.world.registry (10, 7)) = some (some 0) := by decide
  obtain ⟨s, hs, hp⟩ := Option.map_eq_some'.mp hc
  exact ⟨s, hs, hp, registry_entry_matches_key (seqRun_steps _ _ _ _ hs) hp⟩

/-- In every interleaving, an entry once allocated stays allocated, with the `SSN`, `PointCode`,
`IsLocal` and `MaxTestRetries` it had, in every continuation of the run. -/
theorem entry_identity_stable {cfg : Config} {s s' : Sys} (hr : Reachable cfg s)
    (h : Relation.ReflTransGen (Sys.Next cfg) s s') {p : Nat} {e : SSNEntry}
    (he : s.world.entries p = some e) :
    ∃ e', s'.world.entries p = some e' ∧ e'.ssn = e.ssn ∧ e'.pointCode = e.pointCode ∧
      e'.isLocal = e.isLocal ∧ e'.maxTestRetries = e.maxTestRetries := by
  suffices ∃ e', s'.world.entries p = some e' ∧ e.SameIdentity e' from
    let ⟨e', he', hid⟩ := this
    ⟨e', he', hid.ssn, hid.pointCode, hid.isLocal, hid.maxTestRetries⟩
  induction h with
  | refl => exact ⟨e, he, .refl e⟩
  | tail hsb hstep ih =>
    obtain ⟨e₁, he₁, hid₁⟩ := ih
    obtain ⟨a, ha⟩ := hstep
    obtain ⟨e₂, he₂, hid₂⟩ := (reachable_entryInv (hr.trans hsb)).step_sameIdentity ha he₁
    exact ⟨e₂, he₂, hid₁.trans hid₂⟩

/-- Entry 0, made by an SSA for `(10, 7)`, is still the remote entry for `(10, 7)` after an SSP
changed its state and started its test. -/
theorem entry_identity_stable_ssa_ssp :
    ∃ s s' e, seqRun Config.default [.call (.handleSSA 10 7)] Sys.init = some s ∧
      seqRun Config.default [.call (.handleSSP 10 7)] s = some s' ∧ s.world.entries 0 = some e ∧
      ∃ e', s'.world.entries 0 = some e' ∧ e'.ssn = e.ssn ∧ e'.pointCode = e.pointCode ∧
        e'.isLocal = e.isLocal ∧ e'.maxTestRetries = e.maxTestRetries := by
  have hs : seqRun Config.default [.call (.handleSSA 10 7)] Sys.init =
      some (Sys.init.runTask Config.default ((Call.handleSSA 10 7).prog Config.default)) := rfl
  obtain ⟨s', hs'⟩ := Option.isSome_iff_exists.mp (show (seqRun Config.default
    [.call (.handleSSP 10 7)] (Sys.init.runTask Config.default
      ((Call.handleSSA 10 7).prog Config.default))).isSome by decide)
  obtain ⟨e, he⟩ := Option.isSome_iff_exists.mp (show ((Sys.init.runTask Config.default
    ((Call.handleSSA 10 7).prog Config.default)).world.entries 0).isSome by decide)
  exact ⟨_, s', e, hs, hs', he,
    entry_identity_stable (seqRun_steps _ _ _ _ hs) (seqRun_steps _ _ _ _ hs') he⟩

end Sccp.Manager
