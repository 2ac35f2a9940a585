import Sccp.Manager.Handlers
import Mathlib.Logic.Function.Basic
import Mathlib.Logic.Relation

/-!
# SSN state manager: step semantics

The memory the goroutines share (`World`: the manager's map, the heap of entries with their
mutexes, the runtime's timers, and what was handed to the callbacks and the transport) and the
goroutines themselves (`Sys`). A state moves by an `Action`: a user goroutine calls into the API,
a pending timer fires and the runtime starts its callback on a new goroutine, or some goroutine
performs its next operation. Any interleaving is allowed; a goroutine that must wait for a lock
cannot move until the lock is released.

A `sync.RWMutex` is modelled as Go documents it for the operations the source uses: `Lock` waits
until no goroutine holds it, `RLock` until no goroutine holds it for writing, and it is not
reentrant. Its holders are recorded, since each `Unlock` in the source is the deferred partner of
the same goroutine's `Lock`.

`runAlone` runs one goroutine by itself until it returns or must wait; a sequential run
(`seqRun`) starts each call or timer callback only after the previous one has returned or is
waiting. `runTask_steps` shows that every sequential run is a run of the step semantics.
-/
namespace Sccp.Manager

/-- A `sync.RWMutex`: the goroutine holding it for writing and those holding it for reading. -/
structure RWMutex where
  writer : Option Nat
  readers : List Nat
  deriving DecidableEq, Repr

/-- The zero `sync.RWMutex`. -/
def RWMutex.free : RWMutex := ⟨none, []⟩

inductive TimerStatus where
  | pending
  | stopped
  /-- The timer fired and the runtime started its callback on goroutine `task`. -/
  | fired (task : Nat)
  deriving DecidableEq, Repr

/-- A `time.Timer` made by `time.AfterFunc(interval, func() { sm.performSST(entry) })`. -/
structure Timer where
  entry : Nat
  interval : Int
  status : TimerStatus
  deriving DecidableEq, Repr

/-- A call of `OnStateChange(entry, state, reason)`. -/
structure Notification where
  entry : Nat
  state : SSNState
  reason : StateChangeReason
  deriving DecidableEq, Repr

/-- Memory shared by the goroutines. -/
structure World where
  /-- `sm.entries`. -/
  registry : Key → Option Nat
  /-- The `*SSNEntry` heap; `AddEntry` allocates at `nextEntry`. -/
  entries : Nat → Option SSNEntry
  /-- Each entry's `mutex`. -/
  mutex : Nat → RWMutex
  /-- The runtime's timers; `time.AfterFunc` allocates at `nextTimer`. -/
  timers : Nat → Option Timer
  nextEntry : Nat
  nextTimer : Nat
  notified : List Notification
  broadcasts : List (BroadcastType × Nat)
  /-- The SSTs `sendSST` handed to the transport. -/
  sent : List (Key × List UInt8)

namespace World

variable (w : World)

/-- `NewSSNStateManager`: no entries, no timers. -/
def init : World :=
  ⟨fun _ => none, fun _ => none, fun _ => .free, fun _ => none, 0, 0, [], [], []⟩

@[simps] def setMutex (p : Nat) (m : RWMutex) : World :=
  { w with mutex := Function.update w.mutex p m }

@[simps] def modifyEntry (p : Nat) (f : SSNEntry → SSNEntry) : World :=
  { w with entries := Function.update w.entries p ((w.entries p).map f) }

@[simps] def setTimer (t : Nat) (tm : Timer) : World :=
  { w with timers := Function.update w.timers t tm }

/-- `AddEntry`: a new entry at `nextEntry`, stored under `key` in place of any earlier one. -/
@[simps] def addEntry (cfg : Config) (key : Key) (isLocal : Bool) : World :=
  { w with
    registry := Function.update w.registry key (some w.nextEntry)
    entries := Function.update w.entries w.nextEntry (some (.new cfg key.1 key.2 isLocal))
    nextEntry := w.nextEntry + 1 }

/-- `time.AfterFunc`: a pending timer at `nextTimer`. -/
@[simps] def afterFunc (d : Int) (p : Nat) : World :=
  { w with
    timers := Function.update w.timers w.nextTimer (some ⟨p, d, .pending⟩)
    nextTimer := w.nextTimer + 1 }

@[simps] def notify (n : Notification) : World := { w with notified := w.notified ++ [n] }

@[simps] def broadcast (b : BroadcastType) (p : Nat) : World :=
  { w with broadcasts := w.broadcasts ++ [(b, p)] }

@[simps] def emitSST (key : Key) (bytes : List UInt8) : World :=
  { w with sent := w.sent ++ [(key, bytes)] }

def canLock (p : Nat) : Prop := (w.entries p).isSome ∧ w.mutex p = .free

def canRLock (p : Nat) : Prop := (w.entries p).isSome ∧ (w.mutex p).writer = none

instance (p : Nat) : Decidable (w.canLock p) := inferInstanceAs (Decidable (_ ∧ _))
instance (p : Nat) : Decidable (w.canRLock p) := inferInstanceAs (Decidable (_ ∧ _))

/-- `Timer.Stop`: a pending timer is stopped and `true` returned; otherwise nothing changes. -/
def stopTimer (t : Nat) : Option (World × Bool) :=
  match w.timers t with
  | some tm => if tm.status = .pending then some (w.setTimer t { tm with status := .stopped }, true)
    else some (w, false)
  | none => none

/-- One operation of goroutine `i`; `none` when it cannot be performed now: a lock the goroutine
must wait for, or a nil entry or timer, which the source never dereferences. -/
def perform (cfg : Config) (i : Nat) : (o : Op) → Option (World × o.Ret)
  | .getEntry key => some (w, w.registry key)
  | .addEntry key isLocal => some (w.addEntry cfg key isLocal, w.nextEntry)
  | .rLock p => if w.canRLock p then some (w.setMutex p ⟨none, i :: (w.mutex p).readers⟩, ())
    else none
  | .rUnlock p => if i ∈ (w.mutex p).readers then
      some (w.setMutex p { w.mutex p with readers := (w.mutex p).readers.erase i }, ())
    else none
  | .lock p => if w.canLock p then some (w.setMutex p ⟨some i, []⟩, ()) else none
  | .unlock p => if (w.mutex p).writer = some i then
      some (w.setMutex p { w.mutex p with writer := none }, ())
    else none
  | .load p => (w.entries p).map fun e => (w, e)
  | .store p f => (w.entries p).map fun _ => (w.modifyEntry p f, ())
  | .stopTimer t => w.stopTimer t
  | .afterFunc d p => some (w.afterFunc d p, w.nextTimer)
  | .onStateChange p st reason => some (w.notify ⟨p, st, reason⟩, ())
  | .onBroadcast b p => some (w.broadcast b p, ())
  | .emit key bytes => some (w.emitSST key bytes, ())

/-- A pending timer fires; the runtime starts its callback as goroutine `j`. Returns the entry
the callback was made for. -/
def fire (t j : Nat) : Option (World × Nat) :=
  match w.timers t with
  | some tm => if tm.status = .pending then some (w.setTimer t { tm with status := .fired j }, tm.entry)
    else none
  | none => none

/-- `Stop` changes nothing, or marks an existing timer stopped. -/
theorem stopTimer_eq_some {t : Nat} {r : World × Bool} (h : w.stopTimer t = some r) :
    r.1 = w ∨ ∃ tm, w.timers t = some tm ∧ r.1 = w.setTimer t { tm with status := .stopped } := by
  unfold stopTimer at h
  split at h
  · next tm ht =>
    split_ifs at h <;> cases h
    · exact .inr ⟨tm, ht, rfl⟩
    · exact .inl rfl
  · cases h

theorem setMutex_of_eq {p : Nat} {m : RWMutex} (h : w.mutex p = m) : w.setMutex p m = w := by
  cases w
  simp only [setMutex, ← h, Function.update_eq_self]

@[simp] theorem setMutex_setMutex (p : Nat) (m m' : RWMutex) :
    (w.setMutex p m).setMutex p m' = w.setMutex p m' := by
  simp [setMutex]

@[simp] theorem modifyEntry_modifyEntry (p : Nat) (f g : SSNEntry → SSNEntry) :
    (w.modifyEntry p f).modifyEntry p g = w.modifyEntry p fun e => g (f e) := by
  simp only [modifyEntry, Function.update_same, Option.map_map, Function.update_idem]; rfl

/-- A lock operation touches only the mutex, so in a sequence of operations the `setMutex` steps
move outwards, where `setMutex_setMutex` and `setMutex_of_eq` remove them. -/
@[simp] theorem modifyEntry_setMutex (q : Nat) (m : RWMutex) (p : Nat) (f : SSNEntry → SSNEntry) :
    (w.setMutex q m).modifyEntry p f = (w.modifyEntry p f).setMutex q m := rfl

@[simp] theorem setTimer_setMutex (q : Nat) (m : RWMutex) (t : Nat) (tm : Timer) :
    (w.setMutex q m).setTimer t tm = (w.setTimer t tm).setMutex q m := rfl

@[simp] theorem addEntry_setMutex (q : Nat) (m : RWMutex) (cfg : Config) (key : Key) (l : Bool) :
    (w.setMutex q m).addEntry cfg key l = (w.addEntry cfg key l).setMutex q m := rfl

@[simp] theorem afterFunc_setMutex (q : Nat) (m : RWMutex) (d : Int) (p : Nat) :
    (w.setMutex q m).afterFunc d p = (w.afterFunc d p).setMutex q m := rfl

@[simp] theorem notify_setMutex (q : Nat) (m : RWMutex) (n : Notification) :
    (w.setMutex q m).notify n = (w.notify n).setMutex q m := rfl

@[simp] theorem broadcast_setMutex (q : Nat) (m : RWMutex) (b : BroadcastType) (p : Nat) :
    (w.setMutex q m).broadcast b p = (w.broadcast b p).setMutex q m := rfl

@[simp] theorem emitSST_setMutex (q : Nat) (m : RWMutex) (key : Key) (bytes : List UInt8) :
    (w.setMutex q m).emitSST key bytes = (w.emitSST key bytes).setMutex q m := rfl

end World

/-- The goroutines: `tasks i` is what goroutine `i` has left to run (`.pure r` once it has
returned `r`); a new goroutine gets `nextTask`. -/
structure Sys where
  world : World
  tasks : Nat → Option (Prog Reply)
  nextTask : Nat

namespace Sys

def init : Sys := ⟨World.init, fun _ => none, 0⟩

def spawn (s : Sys) (prog : Prog Reply) : Sys :=
  { s with tasks := Function.update s.tasks s.nextTask (some prog), nextTask := s.nextTask + 1 }

end Sys

inductive Action where
  /-- A user goroutine makes a call. -/
  | call (c : Call)
  /-- A pending timer fires. -/
  | fire (t : Nat)
  /-- Goroutine `i` performs its next operation. -/
  | exec (i : Nat)
  deriving DecidableEq, Repr

section Semantics

variable (cfg : Config)

def Sys.step (s : Sys) : Action → Option Sys
  | .call c => some (s.spawn (c.prog cfg))
  | .fire t => (s.world.fire t s.nextTask).map fun r => { s with world := r.1 }.spawn (sstCallback cfg r.2)
  | .exec i => match s.tasks i with
    | some (.op o next) => (s.world.perform cfg i o).map fun r =>
        { s with world := r.1, tasks := Function.update s.tasks i (some (next r.2)) }
    | _ => none

theorem Sys.step_call {s s' : Sys} {c : Call} (h : s.step cfg (.call c) = some s') :
    s' = s.spawn (c.prog cfg) := by
  simp only [Sys.step, Option.some.injEq] at h
  exact h.symm

theorem Sys.step_fire {s s' : Sys} {t : Nat} (h : s.step cfg (.fire t) = some s') :
    ∃ tm, s.world.timers t = some tm ∧ tm.status = .pending ∧
      s' = { s with world := s.world.setTimer t { tm with status := .fired s.nextTask } }.spawn
        (sstCallback cfg tm.entry) := by
  simp only [Sys.step, World.fire, Option.map_eq_some'] at h
  obtain ⟨r, hr, rfl⟩ := h
  split at hr
  · next tm htm =>
    split at hr
    · cases hr
      exact ⟨tm, htm, by assumption, rfl⟩
    · cases hr
  · cases hr

theorem Sys.step_exec {s s' : Sys} {i : Nat} (h : s.step cfg (.exec i) = some s') :
    ∃ o next r, s.tasks i = some (.op o next) ∧ s.world.perform cfg i o = some r ∧
      s' = { s with world := r.1, tasks := Function.update s.tasks i (some (next r.2)) } := by
  simp only [Sys.step] at h
  split at h
  · next o next hi =>
    obtain ⟨r, hr, rfl⟩ := Option.map_eq_some'.mp h
    exact ⟨o, next, r, hi, hr, rfl⟩
  · cases h

def Sys.Next (s s' : Sys) : Prop := ∃ a, s.step cfg a = some s'

/-- The states some interleaving of calls, timer expiries and goroutine steps reaches. -/
def Reachable (s : Sys) : Prop := Relation.ReflTransGen (Sys.Next cfg) Sys.init s

/-- A run as the list of its actions. -/
def run : List Action → Sys → Option Sys
  | [], s => some s
  | a :: as, s => (s.step cfg a).bind (run as)

theorem run_steps : ∀ (as : List Action) (s s' : Sys), run cfg as s = some s' →
    Relation.ReflTransGen (Sys.Next cfg) s s'
  | [], s, s', h => by cases h; exact .refl
  | a :: as, s, s', h => by
    simp only [run, Option.bind_eq_some] at h
    obtain ⟨s₁, h₁, h₂⟩ := h
    exact .head ⟨a, h₁⟩ (run_steps as s₁ s' h₂)

/-- What running goroutine `i` by itself ends with: it returned, or it waits at `rest`. -/
inductive Outcome (α : Type) where
  | done (w : World) (a : α)
  | blocked (w : World) (rest : Prog α)

/-- Goroutine `i` run by itself from `w` until it returns or must wait. -/
def runAlone {α : Type} (i : Nat) (w : World) : Prog α → Outcome α
  | .pure a => .done w a
  | .op o next => match w.perform cfg i o with
    | some r => runAlone i r.1 (next r.2)
    | none => .blocked w (.op o next)

theorem runAlone_bind (i : Nat) {α β : Type} (x : Prog α) (f : α → Prog β) (w : World) :
    runAlone cfg i w (x >>= f) = match runAlone cfg i w x with
      | .done w' a => runAlone cfg i w' (f a)
      | .blocked w' r => .blocked w' (r >>= f) := by
  induction x generalizing w with
  | pure a => rfl
  | op o next ih =>
    simp only [Prog.op_bind, runAlone]
    cases w.perform cfg i o with
    | some r => exact ih r.2 r.1
    | none => rfl

theorem Prog.bind_pure {α : Type} (x : Prog α) : x.bind Prog.pure = x := by
  induction x with
  | pure a => rfl
  | op o next ih => exact congrArg (Prog.op o) (funext ih)

/-- Running goroutine `i` by itself is a run of the step semantics. -/
theorem runAlone_steps (i : Nat) {α : Type} (x : Prog α) (k : α → Prog Reply) (s : Sys)
    (h : s.tasks i = some (x >>= k)) :
    match runAlone cfg i s.world x with
    | .done w a => Relation.ReflTransGen (Sys.Next cfg) s
        { s with world := w, tasks := Function.update s.tasks i (some (k a)) }
    | .blocked w r => Relation.ReflTransGen (Sys.Next cfg) s
        { s with world := w, tasks := Function.update s.tasks i (some (r >>= k)) } := by
  induction x generalizing s with
  | pure a =>
    rw [Prog.pure_bind_eq] at h
    simp only [runAlone, ← h, Function.update_eq_self]
    exact .refl
  | op o next ih =>
    cases hr : s.world.perform cfg i o with
    | none =>
      simp only [runAlone, hr]
      rw [← h, Function.update_eq_self]
    | some r =>
      have hstep : s.step cfg (.exec i) = some
          { s with world := r.1, tasks := Function.update s.tasks i (some (next r.2 >>= k)) } := by
        simp only [Sys.step, h, Prog.op_bind, hr, Option.map_some']
      have ih' := ih r.2
        { s with world := r.1, tasks := Function.update s.tasks i (some (next r.2 >>= k)) } (by simp)
      simp only [runAlone, hr]
      cases ho : runAlone cfg i r.1 (next r.2) with
      | done w a =>
        simp only [ho, Function.update_idem] at ih'
        exact .head ⟨_, hstep⟩ ih'
      | blocked w q =>
        simp only [ho, Function.update_idem] at ih'
        exact .head ⟨_, hstep⟩ ih'

/-- A call or a timer callback as a new goroutine, run by itself until it returns or waits. -/
def Sys.runTask (s : Sys) (prog : Prog Reply) : Sys :=
  match runAlone cfg s.nextTask s.world prog with
  | .done w a => ⟨w, Function.update s.tasks s.nextTask (some (.pure a)), s.nextTask + 1⟩
  | .blocked w r => ⟨w, Function.update s.tasks s.nextTask (some r), s.nextTask + 1⟩

theorem runTask_steps (s : Sys) (prog : Prog Reply) :
    Relation.ReflTransGen (Sys.Next cfg) (s.spawn prog) (s.runTask cfg prog) := by
  have h := runAlone_steps cfg s.nextTask prog Prog.pure (s.spawn prog)
    (by simp [Sys.spawn, Prog.bind_pure])
  simp only [Sys.spawn, Prog.bind_eq, Prog.bind_pure, Function.update_idem] at h
  unfold Sys.runTask
  split <;> rename_i heq <;> rw [heq] at h <;> exact h

/-- What a sequential run is made of: a call, or a timer expiry. -/
inductive Event where
  | call (c : Call)
  | fire (t : Nat)
  deriving DecidableEq, Repr

def Sys.seqStep (s : Sys) : Event → Option Sys
  | .call c => some (s.runTask cfg (c.prog cfg))
  | .fire t => (s.world.fire t s.nextTask).map fun r =>
      { s with world := r.1 }.runTask cfg (sstCallback cfg r.2)

/-- A sequential run: each call or timer callback runs by itself until it returns or waits. -/
def seqRun : List Event → Sys → Option Sys
  | [], s => some s
  | e :: es, s => (s.seqStep cfg e).bind (seqRun es)

theorem seqStep_steps (s s' : Sys) (e : Event) (h : s.seqStep cfg e = some s') :
    Relation.ReflTransGen (Sys.Next cfg) s s' := by
  cases e with
  | call c =>
    cases h
    exact .head ⟨.call c, rfl⟩ (runTask_steps cfg s _)
  | fire t =>
    simp only [Sys.seqStep, Option.map_eq_some'] at h
    obtain ⟨r, hr, rfl⟩ := h
    exact .head ⟨.fire t, by simp [Sys.step, hr]⟩ (runTask_steps cfg _ _)

/-- Every sequential run is a run. -/
theorem seqRun_steps : ∀ (es : List Event) (s s' : Sys), seqRun cfg es s = some s' →
    Relation.ReflTransGen (Sys.Next cfg) s s'
  | [], s, s', h => by cases h; exact .refl
  | e :: es, s, s', h => by
    simp only [seqRun, Option.bind_eq_some] at h
    obtain ⟨s₁, h₁, h₂⟩ := h
    exact (seqStep_steps cfg s s₁ e h₁).trans (seqRun_steps es s₁ s' h₂)

end Semantics

end Sccp.Manager
