import Sccp.Manager.Notify

/-!
# SSN state manager: who changes an entry's state

Only `MarkAllowed` and `MarkProhibited` write an entry's `State`, and only `OnStateChange`
notifies. `AddEntry`, `HandleSST`, `ProcessSCMGMessage` for a type other than SSA and SSP, and the
callback of a timer perform neither, so in every interleaving no step of their goroutines changes
an existing entry's state or locality or adds a notification, and neither does a call starting or
a timer firing (`states_change_only_in_state_handlers`). `HandleUserInService` and
`HandleUserOutOfService` return an error for a remote entry and change nothing.

`HandleSSA` and `HandleSSP` do not ask whether the entry is local: an SSA that arrives from the
network for a local subsystem marks it Allowed and fires `OnStateChange`
(`network_ssa_changes_local_entry`).
-/
namespace Sccp.Manager

/-- An operation that leaves every entry's state and locality alone and fires no
`OnStateChange`. -/
def Op.KeepsStates : Op → Prop
  | .store _ f => ∀ e, (f e).state = e.state ∧ (f e).isLocal = e.isLocal
  | .onStateChange _ _ _ => False
  | _ => True

/-- A program none of whose operations writes an entry's state or locality or notifies. -/
abbrev KeepsStates {α : Type} (x : Prog α) : Prop := x.Every Op.KeepsStates

/-- The calls whose goroutine keeps every entry's state: `AddEntry`, `HandleSST`, and
`ProcessSCMGMessage` for a type other than SSA and SSP. -/
def Call.keepsStates : Call → Bool
  | .addEntry _ _ _ => true
  | .handleSST _ _ => true
  | .processSCMGMessage m => m.type != scmgTypeSSA && m.type != scmgTypeSSP
  | _ => false

section Programs

variable (cfg : Config) {p : Nat}

/-- An operation whose effects keep every state keeps them. -/
theorem Op.Effect.keepsStates {emits : Bool} {o : Op} (h : o.Effect false emits) :
    o.KeepsStates := by
  cases o
  case store => exact fun e => ⟨(h e).2.2.2.2 rfl, (h e).2.2.1⟩
  case onStateChange => exact absurd h Bool.false_ne_true
  all_goals trivial

theorem keepsStates_sstCallback : KeepsStates (sstCallback cfg p) :=
  (effects_programs cfg p 0 0).1.mono fun _ => Op.Effect.keepsStates

theorem keepsStates_handleSST (pc : UInt16) (ssn : UInt8) : KeepsStates (handleSST pc ssn) :=
  (effects_programs Config.default 0 pc ssn).2.1.mono fun _ => Op.Effect.keepsStates

theorem Call.keepsStates_prog {c : Call} (hc : c.keepsStates = true) : KeepsStates (c.prog cfg) := by
  cases c with
  | addEntry pc ssn l => exact .op _ _ trivial fun _ => .pure _
  | handleSST pc ssn => exact keepsStates_handleSST pc ssn
  | processSCMGMessage m =>
    simp only [keepsStates, Bool.and_eq_true, bne_iff_ne, ne_eq] at hc
    simp only [Call.prog, Manager.processSCMGMessage, if_neg hc.1, if_neg hc.2]
    split
    · exact keepsStates_handleSST _ _
    · exact .pure _
  | _ => cases hc

end Programs

namespace World

/-- `w'` has every entry of `w` with its state and locality, and the same notifications. -/
structure SameStates (w w' : World) : Prop where
  notified : w'.notified = w.notified
  flags : ∀ p < w.nextEntry, w'.flags p = w.flags p
  nextEntry : w.nextEntry ≤ w'.nextEntry

variable {cfg : Config} {w w' : World}

theorem SameStates.refl (w : World) : w.SameStates w := ⟨rfl, fun _ _ => rfl, le_rfl⟩

theorem SameStates.of_entries (he : w'.entries = w.entries) (hn : w'.notified = w.notified)
    (hne : w'.nextEntry = w.nextEntry) : w.SameStates w' :=
  ⟨hn, fun p _ => by simp only [World.flags, he], hne.ge⟩

theorem sameStates_perform {i : Nat} {o : Op} {r : World × o.Ret} (ho : o.KeepsStates)
    (h : w.perform cfg i o = some r) : w.SameStates r.1 := by
  cases o with
  | stopTimer t =>
    rcases w.stopTimer_eq_some h with h | ⟨tm, -, h⟩ <;> rw [h]
    exacts [.refl w, .of_entries rfl rfl rfl]
  | onStateChange => exact ho.elim
  | addEntry key l =>
    obtain rfl : (w.addEntry cfg key l, w.nextEntry) = r := Option.some.inj h
    refine ⟨rfl, fun p hp => ?_, Nat.le_succ _⟩
    simp [flags, Function.update_noteq (Nat.ne_of_lt hp)]
  | store p f =>
    obtain ⟨_, -, rfl⟩ := Option.map_eq_some'.mp h
    exact ⟨rfl, fun q _ => by rw [flags_modifyEntry _ (fun e => (ho e).1) fun e => (ho e).2],
      le_rfl⟩
  | _ =>
    simp only [World.perform, Option.map_eq_some'] at h
    first
      | (obtain ⟨_, -, rfl⟩ := h; exact .refl w)
      | (cases h; exact .of_entries rfl rfl rfl)
      | (split_ifs at h; cases h; exact .of_entries rfl rfl rfl)

end World

namespace Sys

variable {cfg : Config} {s s' : Sys}

/-- Goroutine `i` has started, and what it has left to run keeps every entry's state. -/
def KeepsStatesAt (s : Sys) (i : Nat) : Prop :=
  i < s.nextTask ∧ ∀ prog, s.tasks i = some prog → KeepsStates prog

theorem keepsStatesAt_spawn {prog : Prog Reply} (hp : KeepsStates prog) :
    (s.spawn prog).KeepsStatesAt s.nextTask :=
  ⟨Nat.lt_succ_self _, fun _ h => by
    simp only [spawn, Function.update_same, Option.some.injEq] at h
    exact h ▸ hp⟩

/-- No step of any goroutine, and no call or timer expiry, gives goroutine `i` an operation that
changes a state. -/
theorem keepsStatesAt_step {a : Action} (h : s.step cfg a = some s') {i : Nat}
    (hi : s.KeepsStatesAt i) : s'.KeepsStatesAt i := by
  by_cases ha : a = .exec i
  · subst ha
    obtain ⟨o, next, r, ho, -, rfl⟩ := step_exec cfg h
    refine ⟨hi.1, fun prog hp => ?_⟩
    simp only [Function.update_same, Option.some.injEq] at hp
    exact hp ▸ (Prog.Every.of_op (hi.2 _ ho)).2 r.2
  · obtain ⟨hk, hle⟩ := step_task_of_ne h hi.1 fun j hj hji => ha (hji ▸ hj)
    exact ⟨Nat.lt_of_lt_of_le hi.1 hle, fun prog hp => hi.2 prog (hk ▸ hp)⟩

theorem keepsStatesAt_steps {i : Nat} (h : Relation.ReflTransGen (Next cfg) s s')
    (hi : s.KeepsStatesAt i) : s'.KeepsStatesAt i := by
  induction h with
  | refl => exact hi
  | tail _ hn ih => obtain ⟨a, ha⟩ := hn; exact keepsStatesAt_step ha ih

/-- A step of a goroutine whose program keeps every entry's state keeps them. -/
theorem sameStates_exec {i : Nat} (hi : s.KeepsStatesAt i) (h : s.step cfg (.exec i) = some s') :
    s.world.SameStates s'.world := by
  obtain ⟨o, next, r, ho, hr, rfl⟩ := step_exec cfg h
  exact World.sameStates_perform (Prog.Every.of_op (hi.2 _ ho)).1 hr

/-- A call starting or a timer firing changes no entry and notifies nothing. -/
theorem sameStates_of_ne_exec {a : Action} (ha : ∀ i, a ≠ .exec i) (h : s.step cfg a = some s') :
    s.world.SameStates s'.world := by
  cases a with
  | call c => obtain rfl := step_call cfg h; exact .refl _
  | fire t => obtain ⟨tm, -, -, rfl⟩ := step_fire cfg h; exact .of_entries rfl rfl rfl
  | exec i => exact absurd rfl (ha i)

end Sys

section Remote

variable (cfg : Config) (i : Nat) {w : World} {pc : UInt16} {ssn : UInt8} {p : Nat} {e : SSNEntry}

theorem runAlone_handleUserInService_remote (hr : w.registry (pc, ssn) = some p)
    (he : w.entries p = some e) (hl : e.isLocal = false) :
    runAlone cfg i w (handleUserInService cfg pc ssn) = .done w (.error .remoteSubsystem) := by
  simp [handleUserInService, getEntry, load, getKey, runAlone, Prog.bind, World.perform, hr, he,
    hl]

theorem runAlone_handleUserOutOfService_remote (hr : w.registry (pc, ssn) = some p)
    (he : w.entries p = some e) (hl : e.isLocal = false) :
    runAlone cfg i w (handleUserOutOfService cfg pc ssn) = .done w (.error .remoteSubsystem) := by
  simp [handleUserOutOfService, getEntry, load, getKey, runAlone, Prog.bind, World.perform, hr,
    he, hl]

end Remote

/-- In every run, a goroutine of `AddEntry`, of `HandleSST`, of `ProcessSCMGMessage` for a type
other than SSA and SSP, or of a timer's callback, keeps every existing entry's state and locality
and notifies nothing, at each of its steps; so does a call starting or a timer firing. The user
calls `HandleUserInService` and `HandleUserOutOfService` change nothing for a remote entry. -/
theorem states_change_only_in_state_handlers {cfg : Config} {prog : Prog Reply}
    (hprog : (∃ c : Call, c.keepsStates = true ∧ prog = c.prog cfg) ∨ ∃ p, prog = sstCallback cfg p)
    {s₀ s s' : Sys} (hrun : Relation.ReflTransGen (Sys.Next cfg) (s₀.spawn prog) s)
    (hstep : s.step cfg (.exec s₀.nextTask) = some s') :
    s.world.SameStates s'.world ∧
      (∀ (a : Action) (t t' : Sys), (∀ i, a ≠ .exec i) → t.step cfg a = some t' →
        t.world.SameStates t'.world) ∧
      ∀ (w : World) (i : Nat) (pc : UInt16) (ssn : UInt8) (p : Nat) (e : SSNEntry),
        w.registry (pc, ssn) = some p → w.entries p = some e → e.isLocal = false →
        runAlone cfg i w ((Call.handleUserInService pc ssn).prog cfg) = .done w (.error .remoteSubsystem) ∧
        runAlone cfg i w ((Call.handleUserOutOfService pc ssn).prog cfg) =
          .done w (.error .remoteSubsystem) := by
  have hp : KeepsStates prog := by
    rcases hprog with ⟨c, hc, rfl⟩ | ⟨p, rfl⟩
    exacts [Call.keepsStates_prog cfg hc, keepsStates_sstCallback cfg]
  refine ⟨Sys.sameStates_exec (Sys.keepsStatesAt_steps hrun (Sys.keepsStatesAt_spawn hp)) hstep,
    fun a _ _ ha h => Sys.sameStates_of_ne_exec ha h, fun w i pc ssn p e hr he hl => ?_⟩
  exact ⟨runAlone_handleUserInService_remote cfg i hr he hl,
    runAlone_handleUserOutOfService_remote cfg i hr he hl⟩

/-- After `AddEntry(10, 7, true)`, the step of `HandleSST(10, 7)` in which `IsAllowed` reads the
local entry's `State` keeps every entry's state. -/
theorem handleSST_local_step_keeps_states :
    ∃ s₀ s s', run Config.default [.call (.addEntry 10 7 true), .exec 0] Sys.init = some s₀ ∧
      (s₀.world.entries 0).map SSNEntry.isLocal = some true ∧
      run Config.default (List.replicate 3 (.exec s₀.nextTask))
        (s₀.spawn ((Call.handleSST 10 7).prog Config.default)) = some s ∧
      s.step Config.default (.exec s₀.nextTask) = some s' ∧ s.world.SameStates s'.world := by
  obtain ⟨s₀, s, s', h₀, hl, hs, hs'⟩ : ∃ s₀ s s',
      run Config.default [.call (.addEntry 10 7 true), .exec 0] Sys.init = some s₀ ∧
      (s₀.world.entries 0).map SSNEntry.isLocal = some true ∧
      run Config.default (List.replicate 3 (.exec s₀.nextTask))
        (s₀.spawn ((Call.handleSST 10 7).prog Config.default)) = some s ∧
      s.step Config.default (.exec s₀.nextTask) = some s' := ⟨_, _, _, rfl, rfl, rfl, rfl⟩
  exact ⟨s₀, s, s', h₀, hl, hs, hs', (states_change_only_in_state_handlers
    (.inl ⟨.handleSST 10 7, rfl, rfl⟩) (run_steps _ _ _ _ hs) hs').1⟩

/-- The SSA for a local subsystem that arrives from the network. -/
def localSSARun : List Event :=
  [.call (.addEntry 10 7 true), .call (.processSCMGMessage (SCMG.newSCMG scmgTypeSSA 7 10 0 0))]

/-- `ProcessSCMGMessage` of an SSA marks a local Prohibited entry Allowed and fires
`OnStateChange` for it. -/
theorem network_ssa_changes_local_entry :
    ∃ s, seqRun Config.withStateChange localSSARun Sys.init = some s ∧
      s.world.registry (10, 7) = some 0 ∧ s.world.flags 0 = some (.allowed, true) ∧
      s.world.notifiedFor 0 = [.allowed] := by
  have hc : (seqRun Config.withStateChange localSSARun Sys.init).map (fun s =>
      decide (s.world.registry (10, 7) = some 0) && decide (s.world.flags 0 = some (.allowed, true)) &&
        decide (s.world.notifiedFor 0 = [.allowed])) = some true := by decide
  cases hs : seqRun Config.withStateChange localSSARun Sys.init with
  | none => simp [hs] at hc
  | some s =>
    simp only [hs, Option.map_some', Option.some.injEq, Bool.and_eq_true, decide_eq_true_eq] at hc
    exact ⟨s, rfl, hc.1.1, hc.1.2, hc.2⟩

end Sccp.Manager
