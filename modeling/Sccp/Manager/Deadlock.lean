import Sccp.Manager.Step

/-!
# SSN state manager: `performSST` waits on its own lock

`performSST` takes its entry's write lock and then calls `IsAllowed`, which asks for a read lock
on the same `sync.RWMutex`. A Go `RWMutex` is not reentrant and `RLock` waits while the write
lock is held, by the caller as by anyone. So the callback of every SST timer that fires stops
there for good, holding the entry's lock: no SST is ever handed to the transport, and every later
call that locks that entry waits as well.

`SelfWaiting` is that state of a goroutine; `selfWaiting_step` says no step of any goroutine ends
it, and `waitsOn_step` that a goroutine waiting for such a lock keeps waiting. `reachable_noSST`
says, for every interleaving, that each timer callback is before its `Lock` or waits on itself,
and that nothing was sent.
-/
namespace Sccp.Manager

/-- The operation that hands an SST to the transport. -/
def Op.isEmit : Op → Bool
  | .emit _ _ => true
  | _ => false

/-- A program none of whose operations hands an SST to the transport. -/
abbrev NoEmit {α : Type} (x : Prog α) : Prop := x.Every fun o => o.isEmit = false

/-- An operation that may not hand an SST to the transport does not. -/
theorem Op.Effect.isEmit {states : Bool} {o : Op} (h : o.Effect states false) :
    o.isEmit = false := by
  cases o
  case emit => exact absurd h Bool.false_ne_true
  all_goals rfl

/-- No call into the API hands an SST to the transport: only `performSST` does. -/
theorem Call.noEmit_prog (cfg : Config) (c : Call) : NoEmit (c.prog cfg) :=
  (Call.effect_prog cfg c).mono fun _ => Op.Effect.isEmit

section Frame

variable {cfg : Config} {w : World} {j : Nat} {o : Op} {r : World × o.Ret}

/-- No operation of goroutine `j` takes away a write lock another goroutine holds. -/
theorem perform_writer (h : w.perform cfg j o = some r) {p i : Nat}
    (hw : (w.mutex p).writer = some i) (hij : j ≠ i) : (r.1.mutex p).writer = some i := by
  cases o with
  | stopTimer t => rcases w.stopTimer_eq_some h with h | ⟨tm, -, h⟩ <;> rw [h] <;> exact hw
  | rLock q | rUnlock q | lock q | unlock q =>
    simp only [World.perform] at h
    split_ifs at h with hc
    cases h
    simp only [World.setMutex_mutex, Function.update_apply]
    split_ifs with hq
    · subst hq
      simp_all [World.canRLock, World.canLock, RWMutex.free]
    · exact hw
  | _ =>
    simp only [World.perform, Option.map_eq_some'] at h
    first
      | (obtain ⟨_, -, rfl⟩ := h; exact hw)

/-- A read lock or a write lock cannot be taken while someone holds the write lock. -/
theorem perform_rLock_of_writer {p i : Nat} (hw : (w.mutex p).writer = some i) :
    w.perform cfg j (.rLock p) = none := by
  rw [World.perform, if_neg]
  rintro ⟨-, h⟩
  simp [h] at hw

theorem perform_lock_of_writer {p i : Nat} (hw : (w.mutex p).writer = some i) :
    w.perform cfg j (.lock p) = none := by
  rw [World.perform, if_neg]
  rintro ⟨-, h⟩
  simp [h, RWMutex.free] at hw

/-- Whoever takes the write lock holds it. -/
theorem perform_lock {p : Nat} {r : World × (Op.lock p).Ret}
    (h : w.perform cfg j (.lock p) = some r) : (r.1.mutex p).writer = some j := by
  simp only [World.perform] at h
  split_ifs at h
  cases h
  simp

/-- Only `emit` sends. -/
theorem perform_sent (h : w.perform cfg j o = some r) (ho : o.isEmit = false) :
    r.1.sent = w.sent := by
  cases o with
  | stopTimer t => rcases w.stopTimer_eq_some h with h | ⟨tm, -, h⟩ <;> rw [h]; rfl
  | emit => simp [Op.isEmit] at ho
  | _ =>
    simp only [World.perform, Option.map_eq_some'] at h
    first
      | (obtain ⟨_, -, rfl⟩ := h; rfl)
      | (split_ifs at h; cases h; rfl)

/-- An operation never makes a timer fired: a fired timer was so before. -/
theorem perform_timer_fired (h : w.perform cfg j o = some r) {t k : Nat} {tm : Timer}
    (ht : r.1.timers t = some tm) (hf : tm.status = .fired k) : w.timers t = some tm := by
  cases o with
  | stopTimer t' =>
    rcases w.stopTimer_eq_some h with h | ⟨tm', -, h⟩ <;> rw [h] at ht
    · exact ht
    · simp only [World.setTimer_timers, Function.update_apply] at ht
      split_ifs at ht
      · cases ht; cases hf
      · exact ht
  | afterFunc d q =>
    simp only [World.perform, Option.some.injEq] at h
    subst h
    simp only [World.afterFunc_timers, Function.update_apply] at ht
    split_ifs at ht
    · cases ht; cases hf
    · exact ht
  | _ =>
    simp only [World.perform, Option.map_eq_some'] at h
    first
      | (obtain ⟨_, -, rfl⟩ := h; exact ht)
      | (split_ifs at h; cases h; exact ht)

/-- A new timer is allocated past every existing one. -/
theorem perform_freshTimer (h : w.perform cfg j o = some r)
    (hf : ∀ t, w.nextTimer ≤ t → w.timers t = none) :
    ∀ t, r.1.nextTimer ≤ t → r.1.timers t = none := by
  cases o with
  | stopTimer t' =>
    rcases w.stopTimer_eq_some h with h | ⟨tm', ht', h⟩ <;> rw [h]
    · exact hf
    · intro t ht
      have hne : t ≠ t' := by rintro rfl; simp [hf t ht] at ht'
      simp [Function.update_noteq hne, hf t ht]
  | afterFunc d q =>
    simp only [World.perform, Option.some.injEq] at h
    subst h
    intro t ht
    simp only [World.afterFunc_nextTimer] at ht
    simp [Function.update_noteq (show t ≠ w.nextTimer by omega), hf t (by omega)]
  | _ =>
    simp only [World.perform, Option.map_eq_some'] at h
    first
      | (obtain ⟨_, -, rfl⟩ := h; exact hf)
      | (split_ifs at h; cases h; exact hf)

end Frame

/-- The lock a program's next operation asks for: the entry, and whether for writing. -/
def Prog.lockRequest {α : Type} : Prog α → Option (Nat × Bool)
  | .op (.rLock p) _ => some (p, false)
  | .op (.lock p) _ => some (p, true)
  | _ => none

/-- A lock request cannot be granted while someone holds the write lock. -/
theorem perform_of_lockRequest {cfg : Config} {w : World} {j : Nat} {α : Type} {o : Op}
    {next : o.Ret → Prog α} {p i : Nat} {b : Bool} (h : (Prog.op o next).lockRequest = some (p, b))
    (hw : (w.mutex p).writer = some i) : w.perform cfg j o = none := by
  cases o <;> simp only [Prog.lockRequest, Option.some.injEq, Prod.mk.injEq] at h <;>
    obtain ⟨rfl, -⟩ := h
  · exact perform_rLock_of_writer hw
  · exact perform_lock_of_writer hw

namespace Sys

/-- The lock goroutine `i` asks for next. -/
def lockRequest (s : Sys) (i : Nat) : Option (Nat × Bool) := (s.tasks i).bind Prog.lockRequest

/-- Goroutine `i` is about to take a read lock on entry `p`, whose write lock it holds itself. -/
def SelfWaiting (s : Sys) (i p : Nat) : Prop :=
  s.lockRequest i = some (p, false) ∧ (s.world.mutex p).writer = some i ∧ i < s.nextTask

/-- Goroutine `k` is about to take entry `p`'s lock, for reading or for writing. -/
def WaitsOn (s : Sys) (k p : Nat) : Prop :=
  (s.lockRequest k).map Prod.fst = some p ∧ k < s.nextTask

instance (s : Sys) (i p : Nat) : Decidable (s.SelfWaiting i p) :=
  inferInstanceAs (Decidable (_ ∧ _ ∧ _))

instance (s : Sys) (k p : Nat) : Decidable (s.WaitsOn k p) :=
  inferInstanceAs (Decidable (_ ∧ _))

variable {cfg : Config} {s s' : Sys}

/-- A step of some other goroutine, a call or a timer leaves goroutine `k` as it was. -/
theorem step_task_of_ne {a : Action} (h : s.step cfg a = some s') {k : Nat} (hk : k < s.nextTask)
    (ha : ∀ i, a = .exec i → i ≠ k) : s'.tasks k = s.tasks k ∧ s.nextTask ≤ s'.nextTask := by
  cases a with
  | call c =>
    obtain rfl := step_call cfg h
    exact ⟨Function.update_noteq (Nat.ne_of_lt hk) _ _, Nat.le_succ _⟩
  | fire t =>
    obtain ⟨tm, -, -, rfl⟩ := step_fire cfg h
    exact ⟨Function.update_noteq (Nat.ne_of_lt hk) _ _, Nat.le_succ _⟩
  | exec i =>
    obtain ⟨o, next, r, -, -, rfl⟩ := step_exec cfg h
    exact ⟨Function.update_noteq (ha i rfl).symm _ _, le_rfl⟩

/-- Only an operation changes a lock: a call or a timer firing does not. -/
theorem step_writer {a : Action} (h : s.step cfg a = some s') {p i : Nat}
    (hw : (s.world.mutex p).writer = some i) (ha : ∀ j, a = .exec j → j ≠ i) :
    (s'.world.mutex p).writer = some i := by
  cases a with
  | call c => obtain rfl := step_call cfg h; exact hw
  | fire t => obtain ⟨tm, -, -, rfl⟩ := step_fire cfg h; exact hw
  | exec j =>
    obtain ⟨o, next, r, -, hr, rfl⟩ := step_exec cfg h
    exact perform_writer hr hw (ha j rfl)

/-- A goroutine asking for a lock someone holds for writing does not move. -/
theorem step_ne_exec {a : Action} (h : s.step cfg a = some s') {k p i : Nat} {b : Bool}
    (hreq : s.lockRequest k = some (p, b)) (hw : (s.world.mutex p).writer = some i) :
    ∀ j, a = .exec j → j ≠ k := by
  rintro j rfl rfl
  obtain ⟨o, next, r, ho, hr, -⟩ := step_exec cfg h
  rw [lockRequest, ho, Option.some_bind] at hreq
  rw [perform_of_lockRequest hreq hw] at hr
  cases hr

/-- A goroutine waiting on its own lock never moves again and keeps the lock. -/
theorem selfWaiting_step {a : Action} (h : s.step cfg a = some s') {i p : Nat}
    (hi : s.SelfWaiting i p) : s'.SelfWaiting i p := by
  obtain ⟨hreq, hw, hlt⟩ := hi
  have ha := step_ne_exec h hreq hw
  obtain ⟨htask, hle⟩ := step_task_of_ne h hlt ha
  exact ⟨by rw [lockRequest, htask]; exact hreq, step_writer h hw ha, hlt.trans_le hle⟩

/-- A goroutine waiting for the lock of a goroutine that waits on itself keeps waiting. -/
theorem waitsOn_step {a : Action} (h : s.step cfg a = some s') {i k p : Nat}
    (hi : s.SelfWaiting i p) (hk : s.WaitsOn k p) : s'.WaitsOn k p := by
  obtain ⟨hreq, hlt⟩ := hk
  obtain ⟨⟨q, b⟩, hreq', rfl⟩ := Option.map_eq_some'.mp hreq
  have ha := step_ne_exec h hreq' hi.2.1
  obtain ⟨htask, hle⟩ := step_task_of_ne h hlt ha
  exact ⟨by rw [lockRequest, htask]; exact hreq, hlt.trans_le hle⟩

theorem selfWaiting_steps (h : Relation.ReflTransGen (Sys.Next cfg) s s') {i p : Nat}
    (hi : s.SelfWaiting i p) : s'.SelfWaiting i p := by
  induction h with
  | refl => exact hi
  | tail _ hstep ih => obtain ⟨a, ha⟩ := hstep; exact selfWaiting_step ha ih

theorem waitsOn_steps (h : Relation.ReflTransGen (Sys.Next cfg) s s') {i k p : Nat}
    (hi : s.SelfWaiting i p) (hk : s.WaitsOn k p) : s'.WaitsOn k p := by
  induction h with
  | refl => exact hk
  | tail hs hstep ih =>
    obtain ⟨a, ha⟩ := hstep
    exact waitsOn_step ha (selfWaiting_steps hs hi) ih

end Sys

/-- What every reachable state satisfies: each goroutine runs a call's program, which never
sends, or a timer callback that has not taken its lock yet or waits on itself; every fired timer's
callback is one of those; nothing was sent. -/
structure NoSST (cfg : Config) (s : Sys) : Prop where
  freshTask : ∀ j, s.nextTask ≤ j → s.tasks j = none
  freshTimer : ∀ t, s.world.nextTimer ≤ t → s.world.timers t = none
  tasks : ∀ j prog, s.tasks j = some prog →
    NoEmit prog ∨ (∃ p, prog = sstCallback cfg p) ∨ ∃ p, s.SelfWaiting j p
  fired : ∀ t tm j, s.world.timers t = some tm → tm.status = .fired j →
    s.tasks j = some (sstCallback cfg tm.entry) ∨ s.SelfWaiting j tm.entry
  sent : s.world.sent = []

namespace NoSST

variable {cfg : Config} {s s' : Sys}

theorem init : NoSST cfg Sys.init where
  freshTask _ _ := rfl
  freshTimer _ _ := rfl
  tasks _ _ h := by cases h
  fired _ _ _ h := by cases h
  sent := rfl

theorem task_lt (hs : NoSST cfg s) {j : Nat} {prog : Prog Reply} (h : s.tasks j = some prog) :
    j < s.nextTask :=
  Nat.lt_of_not_le fun hj => by simp [hs.freshTask j hj] at h

/-- A goroutine that did not move keeps what `NoSST` says of it. -/
theorem keep {a : Action} (hs : NoSST cfg s) (h : s.step cfg a = some s') {j : Nat}
    {prog : Prog Reply} (hj : s.tasks j = some prog) (ha : ∀ i, a = .exec i → i ≠ j) :
    s'.tasks j = some prog ∧
      (NoEmit prog ∨ (∃ p, prog = sstCallback cfg p) ∨ ∃ p, s'.SelfWaiting j p) := by
  refine ⟨(Sys.step_task_of_ne h (hs.task_lt hj) ha).1.trans hj, ?_⟩
  rcases hs.tasks j prog hj with h' | h' | ⟨p, hp⟩
  · exact .inl h'
  · exact .inr (.inl h')
  · exact .inr (.inr ⟨p, Sys.selfWaiting_step h hp⟩)

/-- The first step of a timer callback takes the entry's write lock; then it waits on itself. -/
theorem selfWaiting_of_sstCallback (hs : NoSST cfg s) {i p : Nat} (h : s.step cfg (.exec i) = some s')
    (hi : s.tasks i = some (sstCallback cfg p)) : s'.SelfWaiting i p := by
  have hlt := hs.task_lt hi
  obtain ⟨k, hk⟩ := sstCallback_eq cfg p
  obtain ⟨o, next, r, ho, hr, rfl⟩ := Sys.step_exec cfg h
  rw [hi, hk] at ho
  cases ho
  exact ⟨by simp [Sys.lockRequest, Prog.lockRequest], perform_lock hr, hlt⟩

theorem step_call (hs : NoSST cfg s) {c : Call} (h : s.step cfg (.call c) = some s') :
    NoSST cfg s' := by
  obtain rfl := Sys.step_call cfg h
  refine ⟨fun j hj => ?_, hs.freshTimer, fun j prog hj => ?_, fun t tm j ht hf => ?_, hs.sent⟩
  · simp only [Sys.spawn] at hj ⊢
    rw [Function.update_noteq (by omega)]
    exact hs.freshTask j (by omega)
  · by_cases hjn : j = s.nextTask
    · subst hjn
      simp only [Sys.spawn, Function.update_same, Option.some.injEq] at hj
      exact .inl (hj ▸ Call.noEmit_prog cfg c)
    · simp only [Sys.spawn, Function.update_noteq hjn] at hj
      exact (hs.keep h hj (by simp)).2
  · rcases hs.fired t tm j ht hf with hj | hj
    · exact .inl (hs.keep h hj (by simp)).1
    · exact .inr (Sys.selfWaiting_step h hj)

theorem step_fire (hs : NoSST cfg s) {t₀ : Nat} (h : s.step cfg (.fire t₀) = some s') :
    NoSST cfg s' := by
  obtain ⟨tm₀, ht₀, -, rfl⟩ := Sys.step_fire cfg h
  refine ⟨fun j hj => ?_, fun t ht => ?_, fun j prog hj => ?_, fun t tm j ht hf => ?_, hs.sent⟩
  · simp only [Sys.spawn] at hj ⊢
    rw [Function.update_noteq (by omega)]
    exact hs.freshTask j (by omega)
  · simp only [Sys.spawn, World.setTimer_nextTimer] at ht
    have hne : t ≠ t₀ := by rintro rfl; simp [hs.freshTimer _ ht] at ht₀
    simpa [Sys.spawn, Function.update_noteq hne] using hs.freshTimer t ht
  · by_cases hjn : j = s.nextTask
    · subst hjn
      simp only [Sys.spawn, Function.update_same, Option.some.injEq] at hj
      exact .inr (.inl ⟨_, hj.symm⟩)
    · simp only [Sys.spawn, Function.update_noteq hjn] at hj
      exact (hs.keep h hj (by simp)).2
  · by_cases htt : t = t₀
    · subst htt
      simp only [Sys.spawn, World.setTimer_timers, Function.update_same, Option.some.injEq] at ht
      subst ht
      cases hf
      exact .inl (by simp [Sys.spawn])
    · simp only [Sys.spawn, World.setTimer_timers, Function.update_noteq htt] at ht
      rcases hs.fired t tm j ht hf with hj | hj
      · exact .inl (hs.keep h hj (by simp)).1
      · exact .inr (Sys.selfWaiting_step h hj)

theorem step_exec (hs : NoSST cfg s) {i : Nat} (h : s.step cfg (.exec i) = some s') :
    NoSST cfg s' := by
  obtain ⟨o, next, r, hi, hr, hs'⟩ := Sys.step_exec cfg h
  -- goroutine `i` runs a call's program, or takes the lock as a timer callback
  have hmoved : o.isEmit = false ∧ (NoEmit (next r.2) ∨ ∃ p, s'.SelfWaiting i p) := by
    rcases hs.tasks i _ hi with h' | ⟨p, hp⟩ | ⟨p, hreq, hw, -⟩
    · exact ⟨(Prog.Every.of_op h').1, .inl ((Prog.Every.of_op h').2 _)⟩
    · refine ⟨?_, .inr ⟨p, hs.selfWaiting_of_sstCallback h (hp ▸ hi)⟩⟩
      obtain ⟨k, hk⟩ := sstCallback_eq cfg p
      rw [hk] at hp
      cases hp
      rfl
    · exact absurd rfl (Sys.step_ne_exec h hreq hw i rfl)
  have hother : ∀ j, j ≠ i → ∀ a, a = Action.exec i → ∀ i', a = .exec i' → i' ≠ j :=
    fun j hji _ ha i' ha' => by rw [ha] at ha'; cases ha'; exact fun he => hji he.symm
  refine ⟨fun j hj => ?_, hs' ▸ perform_freshTimer hr hs.freshTimer, fun j prog hj => ?_,
    fun t tm j ht hf => ?_, hs' ▸ (perform_sent hr hmoved.1).trans hs.sent⟩
  · have : j ≠ i := fun he => by subst he; simp [hs.freshTask _ (hs' ▸ hj)] at hi
    rw [hs'] at hj ⊢
    simp only [Function.update_noteq this]
    exact hs.freshTask j hj
  · by_cases hji : j = i
    · subst hji
      rw [hs'] at hj
      simp only [Function.update_same, Option.some.injEq] at hj
      subst hj
      rcases hmoved.2 with h' | h'
      · exact .inl h'
      · exact .inr (.inr h')
    · have hj' : s.tasks j = some prog := by
        rw [hs'] at hj; simpa [Function.update_noteq hji] using hj
      exact (hs.keep h hj' (hother j hji _ rfl)).2
  · have ht' := perform_timer_fired hr (hs' ▸ ht) hf
    rcases hs.fired t tm j ht' hf with hj | hj
    · by_cases hji : j = i
      · subst hji
        exact .inr (hs.selfWaiting_of_sstCallback h hj)
      · exact .inl (hs.keep h hj (hother j hji _ rfl)).1
    · exact .inr (Sys.selfWaiting_step h hj)

theorem step {a : Action} (hs : NoSST cfg s) (h : s.step cfg a = some s') : NoSST cfg s' := by
  cases a with
  | call c => exact hs.step_call h
  | fire t => exact hs.step_fire h
  | exec i => exact hs.step_exec h

end NoSST

/-- In every interleaving, every timer callback has not taken its lock yet or waits on itself,
and no SST was ever handed to the transport. -/
theorem reachable_noSST {cfg : Config} {s : Sys} (h : Reachable cfg s) : NoSST cfg s := by
  induction h with
  | refl => exact NoSST.init
  | tail _ hstep ih => obtain ⟨a, ha⟩ := hstep; exact ih.step ha

/-- SSA, then SSP, for the remote `(10, 7)`: entry 0 is registered, marked Prohibited, and its SST
timer 0 armed. The timer fires, and SSA for `(10, 7)` arrives again. -/
def deadlockRun : List Event :=
  [.call (.handleSSA 10 7), .call (.handleSSP 10 7), .fire 0, .call (.handleSSA 10 7)]

/-- After `deadlockRun`, the timer callback (goroutine 2) waits on its own lock of entry 0 and the
second SSA (goroutine 3) waits behind it. Whatever happens next, both wait for good, and no SST
has been or ever is sent. -/
theorem performSST_self_deadlock :
    ∃ s, seqRun Config.default deadlockRun Sys.init = some s ∧ Reachable Config.default s ∧
      ∀ s', Relation.ReflTransGen (Sys.Next Config.default) s s' →
        s'.SelfWaiting 2 0 ∧ s'.WaitsOn 3 0 ∧ s'.world.sent = [] := by
  have hc : (seqRun Config.default deadlockRun Sys.init).map
      (fun s => decide (s.SelfWaiting 2 0 ∧ s.WaitsOn 3 0)) = some true := by decide
  cases hs : seqRun Config.default deadlockRun Sys.init with
  | none => simp [hs] at hc
  | some s =>
    simp only [hs, Option.map_some', Option.some.injEq, decide_eq_true_eq] at hc
    have hr : Reachable Config.default s := seqRun_steps _ _ _ _ hs
    refine ⟨s, rfl, hr, fun s' h => ⟨Sys.selfWaiting_steps h hc.1, Sys.waitsOn_steps h hc.1 hc.2, ?_⟩⟩
    exact (reachable_noSST (hr.trans h)).sent

end Sccp.Manager
