import Sccp.Manager.Step

/-!
# SSN state manager: no nil entry or timer is followed

The source follows an `*SSNEntry` only after `GetEntry` found it or `AddEntry` made it, and stops
only the `testTimer` it read from an entry, which `time.AfterFunc` had returned; the model's
`perform` fails on a nil entry or timer. Entries and timers are allocated one after the other and
never freed, so what a goroutine knows of them is a bound: a pointer it holds was below
`nextEntry` or `nextTimer` when it got it, and stays below them.

`Prog.Bounded` says that a goroutine's code follows only pointers it knows, whatever its
operations return, and `World.Allocated` that every pointer in memory is to an allocated entry or
timer. Both hold in every interleaving (`reachable_ptrInv`), so no goroutine ever follows a nil
pointer (`pointers_always_allocated`).
-/
namespace Sccp.Manager

/-- The pointers an operation follows are below the bounds: the entry it locks, reads or arms a
timer for, and the timer it stops; a write of an entry keeps its `testTimer`, clears it, or sets
one below the bound. -/
def Op.Within (nE nT : Nat) : Op → Prop
  | .rLock p | .lock p | .load p | .afterFunc _ p => p < nE
  | .store p f => p < nE ∧ ∀ e t, (f e).testTimer = some t → e.testTimer = some t ∨ t < nT
  | .stopTimer t => t < nT
  | _ => True

/-- What an operation's result tells of the bounds after it: the entry `GetEntry` finds or
`AddEntry` makes, the `testTimer` of an entry read, the timer `time.AfterFunc` returns. -/
def Op.Learns (nE nT : Nat) : (o : Op) → o.Ret → Prop
  | .getEntry _, r => ∀ p, r = some p → p < nE
  | .addEntry _ _, p => @LT.lt Nat _ p nE
  | .load _, e => ∀ t, e.testTimer = some t → t < nT
  | .afterFunc _ _, t => @LT.lt Nat _ t nT
  | _, _ => True

section Within

variable {nE nT nE' nT' : Nat} (hE : nE ≤ nE') (hT : nT ≤ nT')
include hE hT

theorem Op.Within.mono : ∀ {o : Op}, o.Within nE nT → o.Within nE' nT'
  | .rLock _, h | .lock _, h | .load _, h | .afterFunc _ _, h => Nat.lt_of_lt_of_le h hE
  | .store _ _, h => ⟨Nat.lt_of_lt_of_le h.1 hE,
      fun e t ht => (h.2 e t ht).imp_right (Nat.lt_of_lt_of_le · hT)⟩
  | .stopTimer _, h => Nat.lt_of_lt_of_le h hT
  | .getEntry _, _ | .addEntry _ _, _ | .rUnlock _, _ | .unlock _, _ | .onStateChange _ _ _, _
  | .onBroadcast _ _, _ | .emit _ _, _ => trivial

end Within

/-- A goroutine's remaining code, started knowing the entries below `nE` and the timers below
`nT`: each operation follows only pointers known when it is performed, and every return satisfies
`Q` of what is known then. -/
inductive Prog.Bounded {α : Type} (Q : α → Nat → Nat → Prop) : Nat → Nat → Prog α → Prop
  | pure (nE nT : Nat) (a : α) : Q a nE nT → Bounded Q nE nT (.pure a)
  | op (nE nT : Nat) (o : Op) (next : o.Ret → Prog α) : o.Within nE nT →
      (∀ r nE' nT', nE ≤ nE' → nT ≤ nT' → o.Learns nE' nT' r → Bounded Q nE' nT' (next r)) →
      Bounded Q nE nT (.op o next)

/-- Code that follows only pointers it knows, whatever it returns. -/
abbrev Prog.Safe {α : Type} (x : Prog α) (nE nT : Nat) : Prop := x.Bounded (fun _ _ _ => True) nE nT

namespace Prog.Bounded

variable {α β : Type} {P : α → Nat → Nat → Prop} {Q : β → Nat → Nat → Prop} {nE nT : Nat}

theorem bind {x : Prog α} {f : α → Prog β} (hx : x.Bounded P nE nT)
    (hf : ∀ a nE' nT', nE ≤ nE' → nT ≤ nT' → P a nE' nT' → (f a).Bounded Q nE' nT') :
    (x >>= f).Bounded Q nE nT := by
  induction hx with
  | pure nE nT a ha => exact hf a nE nT le_rfl le_rfl ha
  | op nE nT o next ho _ ih =>
    exact .op nE nT o _ ho fun r nE' nT' h₁ h₂ hr => ih r nE' nT' h₁ h₂ hr
      fun a nE'' nT'' h₃ h₄ => hf a nE'' nT'' (h₁.trans h₃) (h₂.trans h₄)

theorem ite {c : Prop} {d : Decidable c} {x y : Prog β} (hx : x.Bounded Q nE nT)
    (hy : y.Bounded Q nE nT) : (@ite _ c d x y).Bounded Q nE nT := by
  cases d
  · exact hy
  · exact hx

end Prog.Bounded

/-- Safe code followed by code that is bounded from whatever is known after it. -/
theorem Prog.Safe.bind {α β : Type} {Q : β → Nat → Nat → Prop} {nE nT : Nat} {x : Prog α}
    {f : α → Prog β} (hx : x.Safe nE nT)
    (hf : ∀ a nE' nT', nE ≤ nE' → nT ≤ nT' → (f a).Bounded Q nE' nT') :
    (x >>= f).Bounded Q nE nT :=
  Prog.Bounded.bind hx fun a nE' nT' h₁ h₂ _ => hf a nE' nT' h₁ h₂

/-- Knowing more keeps code safe. -/
theorem Prog.Safe.mono {α : Type} {x : Prog α} {nE nT nE' nT' : Nat} (hx : x.Safe nE nT)
    (hE : nE ≤ nE') (hT : nT ≤ nT') : x.Safe nE' nT' := by
  cases hx with
  | pure => exact .pure _ _ _ trivial
  | op _ _ o next ho hn =>
    exact .op _ _ o next (ho.mono hE hT) fun r _ _ h₁ h₂ => hn r _ _ (hE.trans h₁) (hT.trans h₂)

section Programs

variable {nE nT p : Nat}

/-- A single operation, whose result tells what `Op.Learns` says. -/
theorem bounded_op {o : Op} (ho : o.Within nE nT) :
    (Prog.op o Prog.pure).Bounded (fun r nE nT => o.Learns nE nT r) nE nT :=
  .op _ _ o _ ho fun r _ _ _ _ hr => .pure _ _ r hr

theorem safe_op {o : Op} (ho : o.Within nE nT) : (Prog.op o Prog.pure).Safe nE nT :=
  .op _ _ o _ ho fun _ _ _ _ _ _ => .pure _ _ _ trivial

theorem safe_load (hp : p < nE) : (load p).Safe nE nT := safe_op hp

theorem safe_onStateChange (st : SSNState) (reason : StateChangeReason) :
    (onStateChange p st reason).Safe nE nT :=
  safe_op trivial

theorem safe_onBroadcast (b : BroadcastType) : (onBroadcast b p).Safe nE nT := safe_op trivial

/-- A write that leaves the entry's `testTimer` alone. -/
theorem safe_store {f : SSNEntry → SSNEntry} (hp : p < nE)
    (hf : ∀ e, (f e).testTimer = e.testTimer) : (store p f).Safe nE nT :=
  safe_op ⟨hp, fun e _ h => .inl ((hf e).symm.trans h)⟩

/-- `GetEntry`, whose result, when not nil, is known. -/
theorem bounded_getEntry_bind {β : Type} {Q : β → Nat → Nat → Prop} (pc : UInt16) (ssn : UInt8)
    {f : Option Nat → Prog β}
    (hs : ∀ p nE' nT', nE ≤ nE' → nT ≤ nT' → p < nE' → (f (some p)).Bounded Q nE' nT')
    (hn : ∀ nE' nT', nE ≤ nE' → nT ≤ nT' → (f none).Bounded Q nE' nT') :
    (getEntry pc ssn >>= f).Bounded Q nE nT :=
  (bounded_op (o := .getEntry _) trivial).bind fun
    | some p, _, _, h₁, h₂, hp => hs p _ _ h₁ h₂ (hp p rfl)
    | none, _, _, h₁, h₂, _ => hn _ _ h₁ h₂

/-- The entry `getOrAddEntry` returns is known. -/
theorem bounded_getOrAddEntry_bind {β : Type} {Q : β → Nat → Nat → Prop} (pc : UInt16)
    (ssn : UInt8) {f : Nat → Prog β}
    (hf : ∀ p nE' nT', nE ≤ nE' → nT ≤ nT' → p < nE' → (f p).Bounded Q nE' nT') :
    (getOrAddEntry pc ssn >>= f).Bounded Q nE nT :=
  Prog.Bounded.bind (P := fun p nE _ => p < nE)
    (bounded_getEntry_bind pc ssn (fun _ _ _ _ _ hp => .pure _ _ _ hp)
      fun _ _ _ _ => bounded_op (o := .addEntry _ _) trivial) hf

theorem safe_withLock {α : Type} {body : Prog α} (hp : p < nE) (hb : body.Safe nE nT) :
    (withLock p body).Safe nE nT :=
  (safe_op (o := .lock p) hp).bind fun _ _ _ h₁ h₂ => (hb.mono h₁ h₂).bind fun _ _ _ _ _ =>
    (safe_op (o := .unlock p) trivial).bind fun _ _ _ _ _ => .pure _ _ _ trivial

theorem safe_checkState (st : SSNState) (hp : p < nE) : (checkState p st).Safe nE nT :=
  (safe_op (o := .rLock p) hp).bind fun _ _ _ h₁ _ =>
    Prog.Safe.bind ((safe_op (o := .load p) (Nat.lt_of_lt_of_le hp h₁)).bind fun _ _ _ _ _ =>
      .pure _ _ _ trivial) fun _ _ _ _ _ =>
    (safe_op (o := .rUnlock p) trivial).bind fun _ _ _ _ _ => .pure _ _ _ trivial

theorem safe_markState (st : SSNState) (hp : p < nE) : (markState p st).Safe nE nT :=
  safe_withLock hp (safe_store hp fun _ => rfl)

/-- `scheduleSST` stores the timer `time.AfterFunc` returned. -/
theorem safe_scheduleSST (hp : p < nE) : (scheduleSST p).Safe nE nT :=
  (safe_op (o := .load p) hp).bind fun _ _ _ h₁ _ =>
    (bounded_op (o := .afterFunc _ p) (Nat.lt_of_lt_of_le hp h₁)).bind fun t _ nT' h₂ _ (ht : @LT.lt Nat _ t nT') =>
      safe_op (o := .store p _) ⟨by omega, fun _ _ h => .inr (by cases h; omega)⟩

/-- `stopSST` stops the `testTimer` it read. -/
theorem safe_stopSST (hp : p < nE) : (stopSST p).Safe nE nT := by
  refine safe_withLock hp (.op _ _ _ _ hp fun e _ _ h₁ _ he => ?_)
  simp only [Prog.bind_eq, Prog.pure_eq, Prog.pure_bind]
  split
  · next t ht =>
    refine .op _ _ _ _ (he t ht) fun _ _ _ h₂ _ _ => .op _ _ _ _ ?_ fun _ _ _ h₃ _ _ =>
      .op _ _ _ _ ?_ fun _ _ _ _ _ _ => .pure _ _ _ trivial
    · exact ⟨by omega, fun _ _ h => by cases h⟩
    · exact ⟨by omega, fun _ _ h => .inl h⟩
  · refine .op _ _ _ _ ?_ fun _ _ _ _ _ _ => .pure _ _ _ trivial
    exact ⟨by omega, fun _ _ h => .inl h⟩

/-- `startSST` stops the `testTimer` it read and schedules a new one. -/
theorem safe_startSST (cfg : Config) (hp : p < nE) : (startSST cfg p).Safe nE nT := by
  refine .op _ _ _ _ hp fun e nE₁ nT₁ h₁ h₁' _ => ?_
  simp only [Prog.bind_eq, Prog.pure_eq, Prog.pure_bind]
  split
  · exact .pure _ _ _ trivial
  have hs : ∀ nE' nT', nE₁ ≤ nE' → nT₁ ≤ nT' →
      ((store p fun e => { e with testInterval := cfg.defaultTestInterval, testRetries := 0 }).bind
        fun _ => scheduleSST p).Safe nE' nT' := by
    intro _ _ h₃ _
    refine .op _ _ _ _ ?_ fun _ _ _ h₄ _ _ => safe_scheduleSST (by omega)
    exact ⟨by omega, fun _ _ h => .inl h⟩
  refine safe_withLock (hp.trans_le h₁) (.op _ _ _ _ (hp.trans_le h₁) fun e _ _ h₂ h₂' he => ?_)
  simp only [Prog.bind_eq, Prog.pure_eq, Prog.pure_bind]
  split
  · next t ht =>
    exact .op _ _ _ _ (he t ht) fun _ _ _ h₃ h₄ _ => hs _ _ (h₂.trans h₃) (h₂'.trans h₄)
  · exact hs _ _ h₂ h₂'

theorem safe_sendSST (pc : UInt16) (ssn : UInt8) : (sendSST pc ssn).Safe nE nT := by
  simp only [sendSST]
  split
  · exact .pure _ _ _ trivial
  · exact (safe_op (o := .emit _ _) trivial).bind fun _ _ _ _ _ => .pure _ _ _ trivial

/-- The timer callback, for an entry it knows, and every handler follow only pointers they
know. -/
theorem safe_programs (cfg : Config) (pc : UInt16) (ssn : UInt8) :
    (∀ p, p < nE → (sstCallback cfg p).Safe nE nT) ∧ (handleUserInService cfg pc ssn).Safe nE nT ∧
      (handleUserOutOfService cfg pc ssn).Safe nE nT ∧ (handleSSA cfg pc ssn).Safe nE nT ∧
      (handleSSP cfg pc ssn).Safe nE nT ∧ (handleSST pc ssn).Safe nE nT := by
  refine ⟨fun p hp => ?_, ?_, ?_, ?_, ?_, ?_⟩ <;>
  simp only [sstCallback, performSST, Manager.handleSSA, Manager.handleSSP, Manager.handleSST,
    Manager.handleUserInService, Manager.handleUserOutOfService, isAllowed, isProhibited,
    markAllowed, markProhibited, Prog.pure_eq] <;>
  repeat' first
    | intro _
    | with_reducible first
      | exact .pure _ _ _ trivial
      | apply bounded_getOrAddEntry_bind
      | apply bounded_getEntry_bind
      | apply Prog.Safe.bind
      | apply Prog.Bounded.ite
      | apply safe_load
      | apply safe_store
      | exact safe_onStateChange _ _
      | exact safe_onBroadcast _
      | apply safe_checkState
      | apply safe_markState
      | apply safe_stopSST
      | apply safe_startSST
      | apply safe_sendSST
      | apply safe_withLock
      | apply safe_scheduleSST
    | split
    | rfl
    | omega

end Programs

/-- Every call into the API follows only pointers it knows. -/
theorem Call.safe_prog (cfg : Config) (nE nT : Nat) : ∀ c : Call, (c.prog cfg).Safe nE nT
  | .addEntry .. => (safe_op (o := .addEntry _ _) trivial).bind fun _ _ _ _ _ => .pure _ _ _ trivial
  | .handleUserInService pc ssn => (safe_programs cfg pc ssn).2.1
  | .handleUserOutOfService pc ssn => (safe_programs cfg pc ssn).2.2.1
  | .handleSSA pc ssn => (safe_programs cfg pc ssn).2.2.2.1
  | .handleSSP pc ssn => (safe_programs cfg pc ssn).2.2.2.2.1
  | .handleSST pc ssn => (safe_programs cfg pc ssn).2.2.2.2.2
  | .processSCMGMessage _ =>
    .ite (safe_programs cfg _ _).2.2.2.1 (.ite (safe_programs cfg _ _).2.2.2.2.1
      (.ite (safe_programs cfg _ _).2.2.2.2.2 (.pure _ _ _ trivial)))

/-- Entries and timers are allocated one after the other and never freed, and every pointer in
memory is to an allocated one: the map's values, each entry's `testTimer`, each timer's entry. -/
structure World.Allocated (w : World) : Prop where
  entries : ∀ p, (w.entries p).isSome ↔ p < w.nextEntry
  timers : ∀ t, (w.timers t).isSome ↔ t < w.nextTimer
  registry : ∀ key p, w.registry key = some p → p < w.nextEntry
  testTimer : ∀ p e t, w.entries p = some e → e.testTimer = some t → t < w.nextTimer
  timerEntry : ∀ t tm, w.timers t = some tm → tm.entry < w.nextEntry

theorem World.Allocated.init : World.init.Allocated :=
  ⟨fun _ => iff_of_false Bool.false_ne_true (Nat.not_lt_zero _),
    fun _ => iff_of_false Bool.false_ne_true (Nat.not_lt_zero _),
    fun _ _ h => Option.noConfusion h, fun _ _ _ h => Option.noConfusion h,
    fun _ _ h => Option.noConfusion h⟩

namespace World.Allocated

variable {w : World} (hw : w.Allocated)
include hw

theorem setMutex (p : Nat) (m : RWMutex) : (w.setMutex p m).Allocated :=
  ⟨hw.1, hw.2, hw.3, hw.4, hw.5⟩

/-- A timer changing state is still allocated, for the same entry. -/
theorem setTimer {t : Nat} {tm : Timer} (ht : w.timers t = some tm) (st : TimerStatus) :
    (w.setTimer t { tm with status := st }).Allocated where
  entries := hw.entries
  timers t' := by
    simp only [World.setTimer_timers, Function.update_apply]
    split_ifs with h
    · subst h; simpa [ht] using hw.timers t'
    · exact hw.timers t'
  registry := hw.registry
  testTimer := hw.testTimer
  timerEntry t' tm' h := by
    simp only [World.setTimer_timers, Function.update_apply] at h
    split_ifs at h with h'
    · cases h; exact hw.timerEntry t tm ht
    · exact hw.timerEntry t' tm' h

theorem addEntry (cfg : Config) (key : Key) (isLocal : Bool) :
    (w.addEntry cfg key isLocal).Allocated where
  entries p := by
    simp only [World.addEntry_entries, World.addEntry_nextEntry, Function.update_apply]
    split_ifs with h
    · simp [h]
    · rw [hw.entries p]; omega
  timers := hw.timers
  registry key' p h := by
    simp only [World.addEntry_registry, World.addEntry_nextEntry, Function.update_apply] at h ⊢
    split_ifs at h
    · cases h; omega
    · exact Nat.lt_succ_of_lt (hw.registry key' p h)
  testTimer p e t he := by
    simp only [World.addEntry_entries, Function.update_apply] at he
    split_ifs at he
    · cases he; nofun
    · exact hw.testTimer p e t he
  timerEntry t tm h := Nat.lt_succ_of_lt (hw.timerEntry t tm h)

/-- A write keeps the entry's `testTimer`, clears it, or sets an allocated timer. -/
theorem modifyEntry {p : Nat} {f : SSNEntry → SSNEntry}
    (hf : ∀ e t, (f e).testTimer = some t → e.testTimer = some t ∨ t < w.nextTimer) :
    (w.modifyEntry p f).Allocated where
  entries q := by
    simp only [World.modifyEntry_entries, Function.update_apply]
    split_ifs with h
    · subst h; simpa using hw.entries q
    · exact hw.entries q
  timers := hw.timers
  registry := hw.registry
  testTimer q e t he ht := by
    simp only [World.modifyEntry_entries, Function.update_apply] at he
    split_ifs at he with h
    · obtain ⟨e', he', rfl⟩ := Option.map_eq_some'.mp he
      exact (hf e' t ht).elim (hw.testTimer p e' t he') id
    · exact hw.testTimer q e t he ht
  timerEntry := hw.timerEntry

theorem afterFunc (d : Int) {p : Nat} (hp : p < w.nextEntry) : (w.afterFunc d p).Allocated where
  entries := hw.entries
  timers t := by
    simp only [World.afterFunc_timers, World.afterFunc_nextTimer, Function.update_apply]
    split_ifs with h
    · simp [h]
    · rw [hw.timers t]; omega
  registry := hw.registry
  testTimer p e t he ht := Nat.lt_succ_of_lt (hw.testTimer p e t he ht)
  timerEntry t tm h := by
    simp only [World.afterFunc_timers, Function.update_apply] at h
    split_ifs at h
    · cases h; exact hp
    · exact hw.timerEntry t tm h

end World.Allocated

section Perform

variable {cfg : Config} {w : World} {j : Nat} {o : Op} {r : World × o.Ret}

/-- An operation that follows only allocated pointers keeps memory allocated, only allocates, and
returns what `Op.Learns` says. -/
theorem perform_allocated (hw : w.Allocated) (ho : o.Within w.nextEntry w.nextTimer)
    (h : w.perform cfg j o = some r) :
    r.1.Allocated ∧ w.nextEntry ≤ r.1.nextEntry ∧ w.nextTimer ≤ r.1.nextTimer ∧
      o.Learns r.1.nextEntry r.1.nextTimer r.2 := by
  cases o with
  | getEntry key => cases h; exact ⟨hw, le_rfl, le_rfl, hw.registry key⟩
  | addEntry key l => cases h; exact ⟨hw.addEntry cfg key l, Nat.le_succ _, le_rfl, Nat.lt_succ_self _⟩
  | rLock p | rUnlock p | lock p | unlock p =>
    simp only [World.perform] at h
    split_ifs at h
    cases h
    exact ⟨hw.setMutex _ _, le_rfl, le_rfl, trivial⟩
  | load p =>
    obtain ⟨e, he, rfl⟩ := Option.map_eq_some'.mp h
    exact ⟨hw, le_rfl, le_rfl, fun t => hw.testTimer p e t he⟩
  | store p f =>
    obtain ⟨_, -, rfl⟩ := Option.map_eq_some'.mp h
    exact ⟨hw.modifyEntry ho.2, le_rfl, le_rfl, trivial⟩
  | stopTimer t =>
    rcases w.stopTimer_eq_some h with h | ⟨tm, ht, h⟩ <;> rw [h]
    · exact ⟨hw, le_rfl, le_rfl, trivial⟩
    · exact ⟨hw.setTimer ht _, le_rfl, le_rfl, trivial⟩
  | afterFunc d p => cases h; exact ⟨hw.afterFunc d ho, le_rfl, Nat.le_succ _, Nat.lt_succ_self _⟩
  | onStateChange | onBroadcast | emit =>
    cases h; exact ⟨⟨hw.1, hw.2, hw.3, hw.4, hw.5⟩, le_rfl, le_rfl, trivial⟩

end Perform

/-- Memory holds only allocated pointers, and each goroutine's remaining code follows only
pointers below the current bounds. -/
structure PtrInv (s : Sys) : Prop where
  world : s.world.Allocated
  tasks : ∀ i prog, s.tasks i = some prog → prog.Safe s.world.nextEntry s.world.nextTimer

namespace PtrInv

variable {cfg : Config} {s s' : Sys}

theorem init : PtrInv Sys.init := ⟨.init, fun _ _ h => by cases h⟩

theorem spawn (hs : PtrInv s) {prog : Prog Reply}
    (hp : prog.Safe s.world.nextEntry s.world.nextTimer) : PtrInv (s.spawn prog) where
  world := hs.world
  tasks i prog' hi := by
    simp only [Sys.spawn, Function.update_apply] at hi
    split_ifs at hi
    · cases hi; exact hp
    · exact hs.tasks i prog' hi

theorem step (hs : PtrInv s) {a : Action} (h : s.step cfg a = some s') : PtrInv s' := by
  cases a with
  | call c =>
    obtain rfl := Sys.step_call cfg h
    exact hs.spawn (Call.safe_prog cfg _ _ c)
  | fire t =>
    obtain ⟨tm, htm, -, rfl⟩ := Sys.step_fire cfg h
    have hs' : PtrInv { s with world := s.world.setTimer t { tm with status := .fired s.nextTask } } :=
      ⟨hs.world.setTimer htm _, hs.tasks⟩
    exact hs'.spawn ((safe_programs cfg 0 0).1 _ (hs.world.timerEntry t tm htm))
  | exec i =>
    obtain ⟨o, next, r, hi, hr, rfl⟩ := Sys.step_exec cfg h
    have hprog := hs.tasks i _ hi
    cases hprog with
    | op _ _ _ _ ho hnext =>
      obtain ⟨hw, hE, hT, hl⟩ := perform_allocated hs.world ho hr
      refine ⟨hw, fun k prog hk => ?_⟩
      simp only [Function.update_apply] at hk
      split_ifs at hk
      · cases hk; exact hnext r.2 _ _ hE hT hl
      · exact (hs.tasks k prog hk).mono hE hT

theorem reachable {s : Sys} (hr : Reachable cfg s) : PtrInv s := by
  induction hr with
  | refl => exact init
  | tail _ hstep ih => obtain ⟨a, ha⟩ := hstep; exact ih.step ha

end PtrInv

/-- In every interleaving, every pointer in memory is to an allocated entry or timer, and every
entry or timer a goroutine's next operation follows is allocated: the source never follows a nil
`*SSNEntry` or `*time.Timer`. -/
theorem pointers_always_allocated {cfg : Config} {s : Sys} (hr : Reachable cfg s) :
    s.world.Allocated ∧ ∀ i o next, s.tasks i = some (.op o next) →
      o.Within s.world.nextEntry s.world.nextTimer := by
  have hs := PtrInv.reachable hr
  refine ⟨hs.world, fun i o next hi => ?_⟩
  cases hs.tasks i _ hi with
  | op _ _ _ _ ho _ => exact ho

/-- SSA and then SSP for the remote `(10, 7)`, and the SST timer the SSP armed fires: entry 0,
its timer 0 and the timer callback's code all hold allocated pointers only. -/
theorem pointers_always_allocated_fire :
    ∃ s, seqRun Config.default [.call (.handleSSA 10 7), .call (.handleSSP 10 7), .fire 0]
        Sys.init = some s ∧
      s.world.Allocated ∧ ∀ i o next, s.tasks i = some (.op o next) →
        o.Within s.world.nextEntry s.world.nextTimer := by
  obtain ⟨s, hs⟩ : ∃ s, seqRun Config.default
      [.call (.handleSSA 10 7), .call (.handleSSP 10 7), .fire 0] Sys.init = some s := ⟨_, rfl⟩
  exact ⟨s, hs, pointers_always_allocated (seqRun_steps _ _ _ _ hs)⟩

end Sccp.Manager
