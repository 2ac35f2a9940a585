import Sccp.Manager.Pointers
import Sccp.Manager.Locking
import Mathlib.Data.DFinsupp.WellFounded

/-!
# SSN state manager: without timer expiries every goroutine finishes

Each goroutine holds at most one entry's write lock and one entry's read lock, releases only
what it holds, holds none when it returns (`read_locks_never_leak`), and calls `OnStateChange`
and `OnBroadcast` holding none (`Prog.RWLocked`), so in every interleaving the callbacks run
outside the entry lock (`callbacks_outside_locks`). A held
write lock excludes readers, so a goroutine about to write an entry is the only one holding its
lock (`writes_exclusive`). A handler moreover never asks for a lock while it holds one.
The timer callback does: `performSST` asks for the read lock of the entry whose write lock it
holds, which is how it deadlocks (`performSST_self_deadlock`).

With `PtrInv` this shows that in every interleaving a goroutine can be kept from its next
operation only by a `Lock` or `RLock` it waits for (`waits_only_for_locks`). Without timer
expiries, every lock that is held is held by a handler that can go on, so no interleaving
deadlocks (`no_deadlock_without_timers`), and since goroutine steps only consume code, every
schedule of them ends with every goroutine returned (`untimed_schedules_complete`).
-/
namespace Sccp.Manager

/-- The entry locks a goroutine holds: the write lock of one entry, the read lock of one. -/
structure Hold where
  write : Option Nat
  read : Option Nat
  deriving DecidableEq, Repr

/-- No lock held. -/
def Hold.free : Hold := ⟨none, none⟩

/-- The locks held after an operation. -/
def Op.hold : Op → Hold → Hold
  | .lock p, h => { h with write := some p }
  | .unlock _, h => { h with write := none }
  | .rLock p, h => { h with read := some p }
  | .rUnlock _, h => { h with read := none }
  | _, h => h

/-- An operation keeps to the lock discipline from the locks held: `Lock` with none held,
`RLock` with no read lock held, and with none at all when `strict`; each unlock releases a lock
held; `OnStateChange` and `OnBroadcast` are called with none held. -/
def Op.Keeps (strict : Bool) : Op → Hold → Prop
  | .lock _, h | .onStateChange .., h | .onBroadcast .., h => h = .free
  | .rLock _, h => h.read = none ∧ (strict = true → h.write = none)
  | .unlock p, h => h.write = some p
  | .rUnlock p, h => h.read = some p
  | _, _ => True

/-- A goroutine's remaining code, started holding `h`: every operation keeps to the lock
discipline, and every return holds `h'`. -/
inductive Prog.RWLocked {α : Type} (strict : Bool) : Hold → Prog α → Hold → Prop
  | pure (h : Hold) (a : α) : RWLocked strict h (.pure a) h
  | op (h : Hold) (o : Op) (next : o.Ret → Prog α) (h' : Hold) : o.Keeps strict h →
      (∀ r, RWLocked strict (o.hold h) (next r) h') → RWLocked strict h (.op o next) h'

namespace Prog.RWLocked

variable {α β : Type} {strict : Bool} {h h₁ h₂ : Hold}

theorem bind {x : Prog α} {f : α → Prog β} (hx : x.RWLocked strict h h₁)
    (hf : ∀ a, (f a).RWLocked strict h₁ h₂) : (x >>= f).RWLocked strict h h₂ := by
  induction hx with
  | pure h a => exact hf a
  | op h o next h' hk _ ih => exact .op h o _ h₂ hk fun r => ih r hf

/-- Code that ends holding what it started with, followed by more such code. -/
theorem bind_keep {x : Prog α} {f : α → Prog β} (hx : x.RWLocked strict h h)
    (hf : ∀ a, (f a).RWLocked strict h h) : (x >>= f).RWLocked strict h h :=
  hx.bind hf

theorem ite {c : Prop} {d : Decidable c} {x y : Prog α} (hx : x.RWLocked strict h h₁)
    (hy : y.RWLocked strict h h₁) : (@ite _ c d x y).RWLocked strict h h₁ := by
  cases d
  · exact hy
  · exact hx

/-- Code that holds nothing when it returns holds nothing before its last operation either:
it is not done while it holds a lock. -/
theorem op_of_held {x : Prog α} (hx : x.RWLocked strict h .free) (hh : h ≠ .free) :
    ∃ o next, x = .op o next ∧ o.Keeps strict h := by
  cases hx with
  | pure => exact absurd rfl hh
  | op _ o next _ hk _ => exact ⟨o, next, rfl, hk⟩

end Prog.RWLocked

section Leaves

variable {strict : Bool} {h : Hold} {p : Nat}

/-- An operation that neither takes nor releases a lock. -/
theorem rwLocked_neutral {o : Op} (hk : o.Keeps strict h) (hh : o.hold h = h) :
    (Prog.op o Prog.pure).RWLocked strict h h :=
  .op h o _ h hk fun _ => by rw [hh]; exact .pure _ _

/-- `mutex.Lock(); defer mutex.Unlock()` around a body that keeps the write lock. -/
theorem rwLocked_withLock {α : Type} {body : Prog α}
    (hb : body.RWLocked strict ⟨some p, none⟩ ⟨some p, none⟩) :
    (withLock p body).RWLocked strict .free .free :=
  (Prog.RWLocked.op _ (.lock p) _ _ rfl fun _ => .pure _ _).bind fun _ => hb.bind fun _ =>
    (Prog.RWLocked.op ⟨some p, none⟩ (.unlock p) _ _ rfl fun _ => .pure _ _).bind fun _ =>
      .pure _ _

/-- `mutex.RLock(); defer mutex.RUnlock()` around a body that keeps what is held; with a write
lock held only when not `strict`. -/
theorem rwLocked_withRLock {α : Type} {body : Prog α} {w : Option Nat}
    (hs : strict = true → w = none) (hb : body.RWLocked strict ⟨w, some p⟩ ⟨w, some p⟩) :
    (withRLock p body).RWLocked strict ⟨w, none⟩ ⟨w, none⟩ :=
  (Prog.RWLocked.op _ (.rLock p) _ _ ⟨rfl, hs⟩ fun _ => .pure _ _).bind fun _ => hb.bind fun _ =>
    (Prog.RWLocked.op ⟨w, some p⟩ (.rUnlock p) _ _ rfl fun _ => .pure _ _).bind fun _ =>
      .pure _ _

theorem rwLocked_checkState {w : Option Nat} (hs : strict = true → w = none) (st : SSNState) :
    (checkState p st).RWLocked strict ⟨w, none⟩ ⟨w, none⟩ :=
  rwLocked_withRLock hs ((rwLocked_neutral (o := .load p) trivial rfl).bind fun _ => .pure _ _)

/-- `IsAllowed` and `IsProhibited` in a handler, which holds no lock. -/
theorem rwLocked_checkState_free (st : SSNState) :
    (checkState p st).RWLocked true .free .free :=
  rwLocked_checkState (w := none) (fun _ => rfl) st

theorem rwLocked_onStateChange (st : SSNState) (reason : StateChangeReason) :
    (onStateChange p st reason).RWLocked strict .free .free :=
  rwLocked_neutral rfl rfl

theorem rwLocked_onBroadcast (b : BroadcastType) : (onBroadcast b p).RWLocked strict .free .free :=
  rwLocked_neutral rfl rfl

theorem rwLocked_markState (st : SSNState) : (markState p st).RWLocked strict .free .free :=
  rwLocked_withLock (rwLocked_neutral trivial rfl)

theorem rwLocked_scheduleSST : (scheduleSST p).RWLocked strict h h :=
  (rwLocked_neutral (o := .load p) trivial rfl).bind fun _ =>
    (rwLocked_neutral (o := .afterFunc _ p) trivial rfl).bind fun _ => rwLocked_neutral trivial rfl

theorem rwLocked_sendSST (pc : UInt16) (ssn : UInt8) : (sendSST pc ssn).RWLocked strict h h := by
  simp only [sendSST]
  split
  · exact .pure _ _
  · exact (rwLocked_neutral (o := .emit _ _) trivial rfl).bind fun _ => .pure _ _

theorem rwLocked_getOrAddEntry (pc : UInt16) (ssn : UInt8) :
    (getOrAddEntry pc ssn).RWLocked strict h h :=
  (rwLocked_neutral (o := .getEntry _) trivial rfl).bind fun
    | some _ => .pure _ _
    | none => rwLocked_neutral (o := .addEntry _ _) trivial rfl

end Leaves

/-- The timer callback keeps to the discipline, asking for a read lock while it holds the write
lock; every handler keeps to it strictly. -/
theorem rwLocked_programs (cfg : Config) (p : Nat) (pc : UInt16) (ssn : UInt8) :
    (sstCallback cfg p).RWLocked false .free .free ∧
      (handleUserInService cfg pc ssn).RWLocked true .free .free ∧
      (handleUserOutOfService cfg pc ssn).RWLocked true .free .free ∧
      (handleSSA cfg pc ssn).RWLocked true .free .free ∧
      (handleSSP cfg pc ssn).RWLocked true .free .free ∧
      (handleSST pc ssn).RWLocked true .free .free := by
  refine ⟨?_, ?_, ?_, ?_, ?_, ?_⟩ <;>
  simp only [sstCallback, performSST, Manager.handleSSA, Manager.handleSSP, Manager.handleSST,
    Manager.handleUserInService, Manager.handleUserOutOfService, isAllowed, isProhibited,
    markAllowed, markProhibited, stopSST, startSST, Prog.pure_eq] <;>
  repeat' first
    | intro _
    | with_reducible first
      | exact .pure _ _
      | apply Prog.RWLocked.bind_keep
      | apply Prog.RWLocked.ite
      | exact rwLocked_checkState_free _
      | exact rwLocked_checkState (by nofun) _
      | exact rwLocked_markState _
      | exact rwLocked_onStateChange _ _
      | exact rwLocked_onBroadcast _
      | exact rwLocked_sendSST _ _
      | exact rwLocked_scheduleSST
      | exact rwLocked_getOrAddEntry _ _
      | apply rwLocked_withLock
    | exact rwLocked_neutral trivial rfl
    | split

/-- Every call into the API keeps to the lock discipline strictly. -/
theorem Call.rwLocked_prog (cfg : Config) : ∀ c : Call, (c.prog cfg).RWLocked true .free .free
  | .addEntry .. => (rwLocked_neutral (o := .addEntry _ _) trivial rfl).bind fun _ => .pure _ _
  | .handleUserInService pc ssn => (rwLocked_programs cfg 0 pc ssn).2.1
  | .handleUserOutOfService pc ssn => (rwLocked_programs cfg 0 pc ssn).2.2.1
  | .handleSSA pc ssn => (rwLocked_programs cfg 0 pc ssn).2.2.2.1
  | .handleSSP pc ssn => (rwLocked_programs cfg 0 pc ssn).2.2.2.2.1
  | .handleSST pc ssn => (rwLocked_programs cfg 0 pc ssn).2.2.2.2.2
  | .processSCMGMessage scmg =>
    have h := rwLocked_programs cfg 0 scmg.affectedPC scmg.affectedSSN
    .ite h.2.2.2.1 (.ite h.2.2.2.2.1 (.ite h.2.2.2.2.2 (.pure _ _)))

/-- Goroutine `i` holds exactly the locks `h`. -/
def World.Holds (w : World) (i : Nat) (h : Hold) : Prop :=
  ∀ p, ((w.mutex p).writer = some i ↔ h.write = some p) ∧ (i ∈ (w.mutex p).readers ↔ h.read = some p)

/-- Goroutine `i` holds entry `p`'s lock, for writing or for reading. -/
def World.HeldBy (w : World) (p i : Nat) : Prop :=
  (w.mutex p).writer = some i ∨ i ∈ (w.mutex p).readers

/-- A goroutine that holds an entry's lock holds some lock. -/
theorem World.Holds.ne_free {w : World} {k : Nat} {hd : Hold} (hh : w.Holds k hd) {p : Nat}
    (hk : w.HeldBy p k) : hd ≠ .free := by
  rintro rfl
  rcases hk with hk | hk
  · cases (hh p).1.mp hk
  · cases (hh p).2.mp hk

section Perform

variable {cfg : Config} {w : World} {j : Nat} {o : Op} {r : World × o.Ret}

/-- What one operation of goroutine `j` does to the mutexes: `Lock` takes a free one, `Unlock`
releases `j`'s write lock, `RLock` adds `j` as a reader when there is no writer, `RUnlock` removes
`j` as a reader; every other operation leaves them alone. -/
theorem perform_mutex (h : w.perform cfg j o = some r) :
    (∃ q, o = .lock q ∧ w.mutex q = .free ∧ r.1.mutex = Function.update w.mutex q ⟨some j, []⟩) ∨
    (∃ q, o = .unlock q ∧ (w.mutex q).writer = some j ∧
      r.1.mutex = Function.update w.mutex q ⟨none, (w.mutex q).readers⟩) ∨
    (∃ q, o = .rLock q ∧ (w.mutex q).writer = none ∧
      r.1.mutex = Function.update w.mutex q ⟨none, j :: (w.mutex q).readers⟩) ∨
    (∃ q, o = .rUnlock q ∧ j ∈ (w.mutex q).readers ∧
      r.1.mutex = Function.update w.mutex q ⟨(w.mutex q).writer, (w.mutex q).readers.erase j⟩) ∨
    ((∀ hd, o.hold hd = hd) ∧ r.1.mutex = w.mutex) := by
  cases o with
  | lock q | unlock q | rLock q | rUnlock q =>
    simp only [World.perform] at h
    split_ifs at h with hc
    cases h
    first
      | exact .inl ⟨q, rfl, hc.2, rfl⟩
      | exact .inr (.inl ⟨q, rfl, hc, rfl⟩)
      | exact .inr (.inr (.inl ⟨q, rfl, hc.2, rfl⟩))
      | exact .inr (.inr (.inr (.inl ⟨q, rfl, hc, rfl⟩)))
  | stopTimer t =>
    rcases w.stopTimer_eq_some h with h | ⟨tm, -, h⟩ <;> rw [h] <;>
      exact .inr (.inr (.inr (.inr ⟨fun _ => rfl, rfl⟩)))
  | _ =>
    simp only [World.perform, Option.map_eq_some', Option.some.injEq] at h
    obtain ⟨_, -, rfl⟩ := h
    exact .inr (.inr (.inr (.inr ⟨fun _ => rfl, rfl⟩)))

/-- Another goroutine's operation does not change the locks goroutine `k` holds. -/
theorem perform_holds_ne (h : w.perform cfg j o = some r) {k : Nat} (hk : k ≠ j) (p : Nat) :
    ((r.1.mutex p).writer = some k ↔ (w.mutex p).writer = some k) ∧
      (k ∈ (r.1.mutex p).readers ↔ k ∈ (w.mutex p).readers) := by
  rcases perform_mutex h with ⟨q, -, hq, hm⟩ | ⟨q, -, hq, hm⟩ | ⟨q, -, hq, hm⟩ | ⟨q, -, hq, hm⟩ |
    ⟨-, hm⟩ <;> rw [hm]
  all_goals first
    | exact ⟨Iff.rfl, Iff.rfl⟩
    | (simp only [Function.update_apply]
       split_ifs with hp
       · subst hp
         simp [hq, RWMutex.free, Ne.symm hk, hk, List.mem_erase_of_ne hk]
       · exact ⟨Iff.rfl, Iff.rfl⟩)

/-- Goroutine `j`'s own operation, when it keeps to the discipline, changes the locks it holds as
`Op.hold` says, and leaves no reader listed twice. -/
theorem perform_holds (h : w.perform cfg j o = some r) {strict : Bool} {hd : Hold}
    (hk : o.Keeps strict hd) (hh : w.Holds j hd) (hn : ∀ p, (w.mutex p).readers.Nodup) :
    r.1.Holds j (o.hold hd) ∧ ∀ p, (r.1.mutex p).readers.Nodup := by
  rcases perform_mutex h with ⟨q, rfl, hq, hm⟩ | ⟨q, rfl, hq, hm⟩ | ⟨q, rfl, hq, hm⟩ |
    ⟨q, rfl, hq, hm⟩ | ⟨ho, hm⟩ <;> rw [World.Holds, hm]
  · -- `Lock`, with nothing held
    obtain rfl : hd = .free := hk
    refine ⟨fun p => ?_, fun p => ?_⟩ <;> simp only [Function.update_apply] <;> split_ifs with hp
    · subst hp; exact ⟨iff_of_true rfl rfl, iff_of_false nofun nofun⟩
    · simpa [Op.hold, Ne.symm hp, Hold.free] using hh p
    · exact List.nodup_nil
    · exact hn p
  · -- `Unlock` of the write lock held
    refine ⟨fun p => ?_, fun p => ?_⟩ <;> simp only [Function.update_apply] <;> split_ifs with hp
    · subst hp; simpa [Op.hold] using (hh p).2
    · have hk : hd.write = some q := hk
      have : hd.write ≠ some p := fun he => hp (Option.some.inj (he.symm.trans hk))
      simpa [Op.hold, this] using hh p
    · exact hn q
    · exact hn p
  · -- `RLock`, with no read lock held
    obtain ⟨hk, -⟩ := hk
    refine ⟨fun p => ?_, fun p => ?_⟩ <;> simp only [Function.update_apply] <;> split_ifs with hp
    · subst hp; simpa [Op.hold, hq] using (hh p).1
    · simpa [Op.hold, Ne.symm hp, hk] using hh p
    · subst hp; exact (hn p).cons (by simpa [hk] using (hh p).2)
    · exact hn p
  · -- `RUnlock` of the read lock held
    have hk : hd.read = some q := hk
    refine ⟨fun p => ?_, fun p => ?_⟩ <;> simp only [Function.update_apply] <;> split_ifs with hp
    · subst hp; simpa [Op.hold, (hn p).mem_erase_iff] using (hh p).1
    · simpa [Op.hold, Ne.symm hp, hk] using hh p
    · subst hp; exact (hn p).erase j
    · exact hn p
  · rw [ho]; exact ⟨hh, hn⟩

end Perform

/-- Each goroutine's remaining code keeps to the lock discipline from the locks it holds, strictly
when `untimed`, and holds none when it returns; only goroutines hold locks, and no reader is
listed twice. -/
structure HoldInv (untimed : Bool) (s : Sys) : Prop where
  tasks : ∀ i prog, s.tasks i = some prog → ∃ strict h, (untimed = true → strict = true) ∧
    prog.RWLocked strict h .free ∧ s.world.Holds i h
  freshTask : ∀ j, s.nextTask ≤ j → s.tasks j = none
  holder : ∀ p i, s.world.HeldBy p i → (s.tasks i).isSome
  nodup : ∀ p, (s.world.mutex p).readers.Nodup

namespace HoldInv

variable {cfg : Config} {u : Bool} {s s' : Sys}

theorem init : HoldInv u Sys.init where
  tasks _ _ h := by cases h
  freshTask _ _ := rfl
  holder _ _ h := by rcases h with h | h <;> cases h
  nodup _ := List.nodup_nil

/-- The goroutine that starts next holds no lock yet. -/
theorem holds_nextTask (hs : HoldInv u s) : s.world.Holds s.nextTask .free := fun p =>
  ⟨iff_of_false (fun h => by simpa [hs.freshTask _ le_rfl] using hs.holder p _ (.inl h)) nofun,
    iff_of_false (fun h => by simpa [hs.freshTask _ le_rfl] using hs.holder p _ (.inr h)) nofun⟩

/-- A new goroutine starts holding no lock. -/
theorem spawn (hs : HoldInv u s) {prog : Prog Reply} {strict : Bool}
    (hst : u = true → strict = true) (hp : prog.RWLocked strict .free .free) :
    HoldInv u (s.spawn prog) where
  tasks i prog' hi := by
    simp only [Sys.spawn, Function.update_apply] at hi
    split_ifs at hi with hn
    · cases hi
      subst hn
      exact ⟨strict, .free, hst, hp, hs.holds_nextTask⟩
    · exact hs.tasks i prog' hi
  freshTask j hj := by
    simp only [Sys.spawn] at hj ⊢
    rw [Function.update_noteq (by omega)]
    exact hs.freshTask j (by omega)
  holder p i hp := by
    simp only [Sys.spawn, Function.update_apply]
    split_ifs
    · rfl
    · exact hs.holder p i hp
  nodup := hs.nodup

/-- One operation of goroutine `i`, whose next operation is `o`. -/
theorem exec (hs : HoldInv u s) {i : Nat} {o : Op} {next : o.Ret → Prog Reply}
    (hi : s.tasks i = some (.op o next)) {r : World × o.Ret}
    (hr : s.world.perform cfg i o = some r) :
    HoldInv u { s with world := r.1, tasks := Function.update s.tasks i (some (next r.2)) } := by
  obtain ⟨strict, hd, hst, hL, hh⟩ := hs.tasks i _ hi
  cases hL with
  | op _ _ _ _ hk hnext =>
  obtain ⟨hh', hn'⟩ := perform_holds hr hk hh hs.nodup
  have hfresh : ∀ j, s.nextTask ≤ j → Function.update s.tasks i (some (next r.2)) j = none :=
    fun j hj => by
      rw [Function.update_noteq fun he => by rw [← he, hs.freshTask j hj] at hi; cases hi]
      exact hs.freshTask j hj
  refine ⟨fun k prog hk' => ?_, hfresh, fun p k hp => ?_, hn'⟩
  · simp only [Function.update_apply] at hk' ⊢
    split_ifs at hk' with hki
    · cases hk'; subst hki; exact ⟨strict, _, hst, hnext r.2, hh'⟩
    · obtain ⟨strict', hd', hst', hL', hh''⟩ := hs.tasks k prog hk'
      refine ⟨strict', hd', hst', hL', fun p => ?_⟩
      rw [(perform_holds_ne hr hki p).1, (perform_holds_ne hr hki p).2]
      exact hh'' p
  · simp only [Function.update_apply]
    split_ifs with hki
    · rfl
    · refine hs.holder p k ?_
      rwa [World.HeldBy, ← (perform_holds_ne hr hki p).1, ← (perform_holds_ne hr hki p).2]

theorem step (hs : HoldInv u s) {a : Action} (h : s.step cfg a = some s')
    (hu : u = true → ∀ t, a ≠ .fire t) : HoldInv u s' := by
  cases a with
  | call c =>
    obtain rfl := Sys.step_call cfg h
    exact hs.spawn (fun _ => rfl) (Call.rwLocked_prog cfg c)
  | fire t =>
    obtain ⟨tm, -, -, rfl⟩ := Sys.step_fire cfg h
    have hs' : HoldInv u { s with world := s.world.setTimer t { tm with status := .fired s.nextTask } } :=
      ⟨hs.tasks, hs.freshTask, hs.holder, hs.nodup⟩
    exact hs'.spawn (fun hu' => absurd rfl (hu hu' t)) (rwLocked_programs cfg tm.entry 0 0).1
  | exec i =>
    obtain ⟨o, next, r, hi, hr, rfl⟩ := Sys.step_exec cfg h
    exact hs.exec hi hr

end HoldInv

theorem HoldInv.reachable {cfg : Config} {s : Sys} (hr : Reachable cfg s) : HoldInv false s := by
  induction hr with
  | refl => exact .init
  | tail _ hstep ih => obtain ⟨a, ha⟩ := hstep; exact ih.step ha nofun

/-- In every interleaving, a goroutine about to call `OnStateChange` or `OnBroadcast` holds no
entry lock, for writing or for reading: the callbacks run outside the entry lock. -/
theorem callbacks_outside_locks {cfg : Config} {s : Sys} (hr : Reachable cfg s) {i : Nat} {o : Op}
    {next : o.Ret → Prog Reply} (hi : s.tasks i = some (.op o next))
    (ho : (∃ p st reason, o = .onStateChange p st reason) ∨ ∃ b p, o = .onBroadcast b p)
    (p : Nat) : ¬s.world.HeldBy p i := by
  obtain ⟨strict, hd, -, hL, hh⟩ := (HoldInv.reachable hr).tasks i _ hi
  cases hL with
  | op _ _ _ _ hk _ =>
  have hfree : hd = .free := by rcases ho with ⟨_, _, _, rfl⟩ | ⟨_, _, rfl⟩ <;> exact hk
  subst hfree
  rintro (hp | hp)
  · cases (hh p).1.1 hp
  · cases (hh p).2.1 hp

/-- With both callbacks set, an SSA for a new entry reaches `OnStateChange` after twelve steps of
its goroutine, holding no entry lock. -/
theorem callbacks_outside_locks_ssa :
    ∃ s next, run { Config.default with onStateChange := true, onBroadcast := true }
      (.call (.handleSSA 10 7) :: List.replicate 12 (.exec 0)) Sys.init = some s ∧
      s.tasks 0 = some (.op (.onStateChange 0 .allowed .networkInitiated) next) ∧
      ∀ p, ¬s.world.HeldBy p 0 :=
  ⟨_, _, rfl, rfl, callbacks_outside_locks
    (run_steps { Config.default with onStateChange := true, onBroadcast := true }
      (.call (.handleSSA 10 7) :: List.replicate 12 (.exec 0)) _ _ rfl) rfl (.inl ⟨_, _, _, rfl⟩)⟩

/-- In every interleaving each goroutine holds the read lock of at most one entry, is listed at
most once among an entry's readers, and holds none once it has returned: every `RLock` is
released before its goroutine ends. -/
theorem read_locks_never_leak {cfg : Config} {s : Sys} (hr : Reachable cfg s) :
    (∀ i p q, i ∈ (s.world.mutex p).readers → i ∈ (s.world.mutex q).readers → p = q) ∧
      (∀ p, (s.world.mutex p).readers.Nodup) ∧
      ∀ i (a : Reply), s.tasks i = some (.pure a) → ∀ p, i ∉ (s.world.mutex p).readers := by
  have hs := HoldInv.reachable hr
  refine ⟨fun i p q hp hq => ?_, hs.nodup, fun i a hi p hp => ?_⟩
  · obtain ⟨prog, hprog⟩ := Option.isSome_iff_exists.mp (hs.holder p i (.inr hp))
    obtain ⟨_, h, -, -, hh⟩ := hs.tasks i prog hprog
    exact Option.some.inj (((hh p).2.mp hp).symm.trans ((hh q).2.mp hq))
  · obtain ⟨_, h, -, hL, hh⟩ := hs.tasks i _ hi
    cases hL
    cases (hh p).2.mp hp

/-- `HandleSSA(10, 7)` on the new manager, three steps in: its goroutine is inside
`IsProhibited`, holding entry 0's read lock. -/
theorem read_locks_never_leak_isProhibited :
    ∃ s, run Config.default [.call (.handleSSA 10 7), .exec 0, .exec 0, .exec 0] Sys.init = some s ∧
      0 ∈ (s.world.mutex 0).readers ∧
      (∀ i p q, i ∈ (s.world.mutex p).readers → i ∈ (s.world.mutex q).readers → p = q) ∧
      (∀ p, (s.world.mutex p).readers.Nodup) ∧
      ∀ i (a : Reply), s.tasks i = some (.pure a) → ∀ p, i ∉ (s.world.mutex p).readers :=
  ⟨_, rfl, .head _, read_locks_never_leak (run_steps Config.default
    [.call (.handleSSA 10 7), .exec 0, .exec 0, .exec 0] _ _ rfl)⟩

/-- A held write lock excludes readers: `Lock` takes only a free mutex, and `RLock` waits while
there is a writer. -/
theorem perform_exclusive {cfg : Config} {w : World} {j : Nat} {o : Op} {r : World × o.Ret}
    (h : w.perform cfg j o = some r)
    (hx : ∀ p, (w.mutex p).writer ≠ none → (w.mutex p).readers = []) :
    ∀ p, (r.1.mutex p).writer ≠ none → (r.1.mutex p).readers = [] := by
  rcases perform_mutex h with ⟨q, -, -, hm⟩ | ⟨q, -, -, hm⟩ | ⟨q, -, hq, hm⟩ | ⟨q, -, -, hm⟩ |
    ⟨-, hm⟩ <;> rw [hm] <;> intro p hp
  all_goals first
    | exact hx p hp
    | (simp only [Function.update_apply] at hp ⊢
       split_ifs at hp ⊢ with hpq
       · first | rfl | exact absurd rfl hp | (subst hpq; rw [hx p hp]; rfl)
       · exact hx p hp)

theorem Sys.exclusive_reachable {cfg : Config} {s : Sys} (hr : Reachable cfg s) :
    ∀ p, (s.world.mutex p).writer ≠ none → (s.world.mutex p).readers = [] := by
  induction hr with
  | refl => exact fun _ _ => rfl
  | tail _ hstep ih =>
    obtain ⟨a, ha⟩ := hstep
    cases a with
    | call c => obtain rfl := Sys.step_call cfg ha; exact ih
    | fire t => obtain ⟨tm, -, -, rfl⟩ := Sys.step_fire cfg ha; exact ih
    | exec i => obtain ⟨o, next, r, -, hr, rfl⟩ := Sys.step_exec cfg ha; exact perform_exclusive hr ih

/-- In every interleaving, while a goroutine is about to write an entry's fields, arm a timer for
it or release its write lock, it alone holds the entry's lock: no other goroutine holds it for
writing or for reading, so the state checks and transitions of one entry never overlap. -/
theorem writes_exclusive {cfg : Config} {s : Sys} (hr : Reachable cfg s) {i : Nat} {o : Op}
    {next : o.Ret → Prog Reply} (hi : s.tasks i = some (.op o next)) {p : Nat}
    (hp : o.needsLock = some p) (j : Nat) : s.world.HeldBy p j ↔ j = i := by
  have hw : (s.world.mutex p).writer = some i := (reachable_lockInv hr).needsLock hi hp
  refine ⟨fun hj => ?_, fun hj => .inl (hj ▸ hw)⟩
  rcases hj with hj | hj
  · exact Option.some.inj (hj.symm.trans hw)
  · rw [Sys.exclusive_reachable hr p (by simp [hw])] at hj
    cases hj

/-- `HandleSSA(10, 7)` on the new manager, run up to the `store` of `MarkAllowed`: its goroutine
alone holds entry 0's lock. -/
theorem writes_exclusive_markAllowed :
    ∃ s o k, run Config.default [.call (.handleSSA 10 7), .exec 0, .exec 0, .exec 0, .exec 0,
        .exec 0, .exec 0] Sys.init = some s ∧
      s.tasks 0 = some (.op o k) ∧ o.needsLock = some 0 ∧ ∀ j, s.world.HeldBy 0 j ↔ j = 0 := by
  obtain ⟨s, o, k, hs, hi, hp⟩ : ∃ s o k, run Config.default [.call (.handleSSA 10 7), .exec 0,
      .exec 0, .exec 0, .exec 0, .exec 0, .exec 0] Sys.init = some s ∧
      s.tasks 0 = some (.op o k) ∧ o.needsLock = some 0 := ⟨_, _, _, rfl, rfl, rfl⟩
  exact ⟨s, o, k, hs, hi, hp, writes_exclusive (run_steps _ _ _ _ hs) hi hp⟩

section Waiting

variable {w : World}

/-- An operation other than `Lock` and `RLock` that follows only allocated pointers and keeps to
the discipline can always be performed. -/
theorem perform_isSome (cfg : Config) (hw : w.Allocated) {j : Nat} {o : Op}
    (ho : o.Within w.nextEntry w.nextTimer) {strict : Bool} {hd : Hold} (hk : o.Keeps strict hd)
    (hh : w.Holds j hd) (hl : ∀ p, o ≠ .lock p ∧ o ≠ .rLock p) : (w.perform cfg j o).isSome := by
  cases o with
  | lock p => exact absurd rfl (hl p).1
  | rLock p => exact absurd rfl (hl p).2
  | unlock p => simp [World.perform, (hh p).1.2 hk]
  | rUnlock p => simp [World.perform, (hh p).2.2 hk]
  | load p => simpa [World.perform] using (hw.entries p).2 ho
  | store p f => simpa [World.perform] using (hw.entries p).2 ho.1
  | stopTimer t =>
    obtain ⟨tm, htm⟩ := Option.isSome_iff_exists.mp ((hw.timers t).2 ho)
    simp only [World.perform, World.stopTimer, htm]
    split <;> rfl
  | _ => rfl

/-- A `Lock` or `RLock` of an allocated entry waits only while some goroutine holds the entry's
lock. -/
theorem heldBy_of_perform_none {cfg : Config} (hw : w.Allocated) {j p : Nat} {o : Op}
    (hop : o = .lock p ∨ o = .rLock p) (ho : o.Within w.nextEntry w.nextTimer)
    (hn : w.perform cfg j o = none) : ∃ k, w.HeldBy p k := by
  have he : (w.entries p).isSome := by rcases hop with rfl | rfl <;> exact (hw.entries p).2 ho
  rcases hop with rfl | rfl <;>
    simp only [World.perform, World.canLock, World.canRLock, he, true_and, ite_eq_right_iff,
      reduceCtorEq, imp_false] at hn
  · rcases hm : w.mutex p with ⟨_ | k, _ | ⟨k', _⟩⟩
    · exact absurd hm hn
    · exact ⟨k', .inr (by simp [hm])⟩
    · exact ⟨k, .inl (by simp [hm])⟩
    · exact ⟨k, .inl (by simp [hm])⟩
  · obtain ⟨k, hk⟩ := Option.ne_none_iff_exists'.mp hn
    exact ⟨k, .inl hk⟩

end Waiting

/-- A goroutine that cannot perform its next operation waits for a `Lock` or an `RLock`, when the
pointers are allocated and the locks are held as the discipline says. -/
theorem waits_for_lock_of_inv {cfg : Config} {u : Bool} {s : Sys} (hs : HoldInv u s)
    (hp : PtrInv s) {i : Nat} {o : Op} {next : o.Ret → Prog Reply}
    (hi : s.tasks i = some (.op o next)) (hn : s.world.perform cfg i o = none) :
    ∃ p, o = .lock p ∨ o = .rLock p := by
  obtain ⟨strict, hd, -, hL, hh⟩ := hs.tasks i _ hi
  cases hL with
  | op _ _ _ _ hk _ =>
  cases hp.tasks i _ hi with
  | op _ _ _ _ ho _ =>
  by_contra hl
  push_neg at hl
  simpa [hn] using perform_isSome cfg hp.world ho hk hh hl

/-- In every interleaving, a goroutine that cannot perform its next operation waits for a `Lock`
or an `RLock`: none is ever stuck on a nil entry or timer, or on an unlock. -/
theorem waits_only_for_locks {cfg : Config} {s : Sys} (hr : Reachable cfg s) {i : Nat} {o : Op}
    {next : o.Ret → Prog Reply} (hi : s.tasks i = some (.op o next))
    (hn : s.world.perform cfg i o = none) : ∃ p, o = .lock p ∨ o = .rLock p :=
  waits_for_lock_of_inv (HoldInv.reachable hr) (PtrInv.reachable hr) hi hn

/-- After `deadlockRun`, goroutine 3, the second SSA, cannot go on: it waits for the read lock of
entry 0, which the timer callback holds for writing. -/
theorem waits_only_for_locks_deadlockRun :
    ∃ s, seqRun Config.default deadlockRun Sys.init = some s ∧ ∃ o next,
      s.tasks 3 = some (.op o next) ∧ s.world.perform Config.default 3 o = none ∧
        ∃ p, o = .lock p ∨ o = .rLock p := by
  obtain ⟨s, hs⟩ : ∃ s, seqRun Config.default deadlockRun Sys.init = some s := ⟨_, rfl⟩
  have hc : (seqRun Config.default deadlockRun Sys.init).map (fun s => match s.tasks 3 with
      | some (.op o _) => (s.world.perform Config.default 3 o).isNone
      | _ => false) = some true := by decide
  simp only [hs, Option.map_some', Option.some.injEq] at hc
  split at hc
  · next o next ho =>
    have hn : s.world.perform Config.default 3 o = none := Option.isNone_iff_eq_none.mp hc
    exact ⟨s, hs, o, next, ho, hn, waits_only_for_locks (seqRun_steps _ _ _ _ hs) ho hn⟩
  · cases hc

/-- A step that is not a timer expiry: a call into the API, or a goroutine's next operation. -/
def Sys.NextUntimed (cfg : Config) (s s' : Sys) : Prop :=
  ∃ a, (∀ t, a ≠ .fire t) ∧ s.step cfg a = some s'

section Untimed

variable {cfg : Config} {s : Sys}

theorem untimed_inv (hr : Relation.ReflTransGen (Sys.NextUntimed cfg) Sys.init s) :
    HoldInv true s ∧ PtrInv s := by
  refine ⟨?_, PtrInv.reachable (hr.mono fun _ _ ⟨a, _, h⟩ => ⟨a, h⟩)⟩
  induction hr with
  | refl => exact .init
  | tail _ hstep ih => obtain ⟨a, ha, h⟩ := hstep; exact ih.step h fun _ => ha

/-- A goroutine that keeps to the discipline strictly and holds a lock can go on: its next
operation is neither `Lock` nor `RLock`, and no other operation of it can fail. -/
theorem can_step_of_strict (hp : PtrInv s) {k : Nat} {prog : Prog Reply}
    (hprog : s.tasks k = some prog) {hd : Hold} (hL : prog.RWLocked true hd .free)
    (hh : s.world.Holds k hd) (hfree : hd ≠ .free) : ∃ s', s.step cfg (.exec k) = some s' := by
  obtain ⟨o, next, rfl, hko⟩ := hL.op_of_held hfree
  have hl : ∀ q, o ≠ .lock q ∧ o ≠ .rLock q := by
    refine fun q => ⟨?_, ?_⟩ <;> rintro rfl
    · exact hfree hko
    · exact hfree (by cases hd; simp_all [Op.Keeps, Hold.free])
  cases hp.tasks k _ hprog with
  | op _ _ _ _ ho _ =>
  obtain ⟨r, hr⟩ := Option.isSome_iff_exists.mp (perform_isSome cfg hp.world ho hko hh hl)
  exact ⟨_, by simp only [Sys.step, hprog, hr, Option.map_some']; rfl⟩

/-- Without timer expiries a goroutine that holds a lock can go on: no handler asks for a lock
while it holds one. -/
theorem HoldInv.holder_can_step (hs : HoldInv true s) (hp : PtrInv s) {p k : Nat}
    (hk : s.world.HeldBy p k) : ∃ s', s.step cfg (.exec k) = some s' := by
  obtain ⟨prog, hprog⟩ := Option.isSome_iff_exists.mp (hs.holder p k hk)
  obtain ⟨strict, hd, hst, hL, hh⟩ := hs.tasks k prog hprog
  obtain rfl := hst rfl
  exact can_step_of_strict hp hprog hL hh (hh.ne_free hk)

end Untimed

/-- Without timer expiries no interleaving of calls deadlocks: while some goroutine has not
returned, some goroutine can perform its next operation. -/
theorem no_deadlock_without_timers {cfg : Config} {s : Sys}
    (hr : Relation.ReflTransGen (Sys.NextUntimed cfg) Sys.init s) {i : Nat} {o : Op}
    {next : o.Ret → Prog Reply} (hi : s.tasks i = some (.op o next)) :
    ∃ j s', s.step cfg (.exec j) = some s' := by
  obtain ⟨hs, hp⟩ := untimed_inv hr
  cases hn : s.world.perform cfg i o with
  | some r => exact ⟨i, _, by simp only [Sys.step, hi, hn, Option.map_some']; rfl⟩
  | none =>
    obtain ⟨p, hop⟩ := waits_for_lock_of_inv hs hp hi hn
    cases hp.tasks i _ hi with
    | op _ _ _ _ ho _ =>
    obtain ⟨k, hk⟩ := heldBy_of_perform_none hp.world hop ho hn
    exact ⟨k, hs.holder_can_step hp hk⟩

/-- Some goroutine performs its next operation. -/
def Sys.ExecStep (cfg : Config) (s s' : Sys) : Prop := ∃ j, s.step cfg (.exec j) = some s'

/-- A goroutine's remaining code is what was left of its code after its next operation. -/
def Prog.Rest {α : Type} : Option (Prog α) → Option (Prog α) → Prop
  | some p', some (.op _ next) => ∃ r, p' = next r
  | _, _ => False

/-- Nothing remains of a goroutine that does not exist. -/
theorem Prog.not_rest_none {α : Type} (y : Option (Prog α)) : ¬Prog.Rest y none := by
  cases y <;> exact id

theorem Prog.rest_wf {α : Type} : WellFounded (@Prog.Rest α) := by
  refine ⟨fun x => ?_⟩
  rcases x with _ | p
  · exact ⟨_, fun y h => absurd h (Prog.not_rest_none y)⟩
  induction p with
  | pure a => exact ⟨_, fun y h => by cases y <;> exact h.elim⟩
  | op o next ih =>
    refine ⟨_, fun y h => ?_⟩
    rcases y with _ | p'
    · exact h.elim
    · obtain ⟨r, rfl⟩ := h
      exact ih r

section Exec

variable {cfg : Config}

/-- A goroutine step leaves one goroutine with what remains of its code and every other goroutine
as it was. -/
theorem Sys.execStep_rest {s s' : Sys} (h : Sys.ExecStep cfg s s') :
    s'.nextTask = s.nextTask ∧ ∃ j, Prog.Rest (s'.tasks j) (s.tasks j) ∧
      ∀ k, k ≠ j → s'.tasks k = s.tasks k := by
  obtain ⟨j, h⟩ := h
  obtain ⟨o, next, r, hi, -, rfl⟩ := Sys.step_exec cfg h
  refine ⟨rfl, j, ?_, fun k hk => Function.update_noteq hk _ _⟩
  simp only [Function.update_same, hi]
  exact ⟨r.2, rfl⟩

/-- Goroutine steps alone always stop: each one consumes code of one of finitely many
goroutines. -/
theorem Sys.execStep_acc (s : Sys) (hf : ∀ j, s.nextTask ≤ j → s.tasks j = none) :
    Acc (fun s' s => Sys.ExecStep cfg s s') s := by
  have hwf := Pi.Lex.wellFounded (ι := Fin s.nextTask) (· < ·) fun _ => @Prog.rest_wf Reply
  suffices ∀ x (t : Sys), t.nextTask = s.nextTask → (∀ j, t.nextTask ≤ j → t.tasks j = none) →
      (fun i : Fin s.nextTask => t.tasks i) = x → Acc (fun s' s => Sys.ExecStep cfg s s') t from
    this _ s rfl hf rfl
  intro x
  induction x using hwf.induction with
  | _ x ih =>
  rintro t hn hf rfl
  refine ⟨_, fun t' ht => ?_⟩
  obtain ⟨hn', j, hrest, hother⟩ := Sys.execStep_rest ht
  have hj : j < s.nextTask := by
    by_contra hj
    rw [hf j (by omega)] at hrest
    exact Prog.not_rest_none _ hrest
  refine ih _ ⟨⟨j, hj⟩, fun k hk => hother k (Fin.val_ne_of_ne (ne_of_lt hk)), hrest⟩ t'
    (hn'.trans hn) (fun k hk => ?_) rfl
  rw [hother k (by omega)]
  exact hf k (by omega)

end Exec

/-- Without timer expiries, from every state calls reach, every schedule of goroutine steps is
finite, and once no goroutine can go on, every goroutine has returned: the calls always
complete. -/
theorem untimed_schedules_complete {cfg : Config} {s : Sys}
    (hr : Relation.ReflTransGen (Sys.NextUntimed cfg) Sys.init s) :
    Acc (fun s' s => Sys.ExecStep cfg s s') s ∧
      ∀ s', Relation.ReflTransGen (Sys.ExecStep cfg) s s' → (∀ j, s'.step cfg (.exec j) = none) →
        ∀ i prog, s'.tasks i = some prog → ∃ a, prog = .pure a := by
  refine ⟨Sys.execStep_acc s (untimed_inv hr).1.freshTask, fun s' hs' hstuck i prog hi => ?_⟩
  have hr' := hr.trans (hs'.mono fun _ _ ⟨j, h⟩ => ⟨.exec j, fun _ => nofun, h⟩)
  cases prog with
  | pure a => exact ⟨a, rfl⟩
  | op o next =>
    obtain ⟨j, s'', h⟩ := no_deadlock_without_timers hr' hi
    simp [hstuck j] at h

/-- SSA and SSP for `(10, 7)` called side by side: every schedule of their goroutines' steps
ends, with both returned. -/
theorem untimed_schedules_complete_ssa_ssp :
    ∃ s, run Config.default [.call (.handleSSA 10 7), .call (.handleSSP 10 7)] Sys.init = some s ∧
      Acc (fun s' s => Sys.ExecStep Config.default s s') s ∧
      ∀ s', Relation.ReflTransGen (Sys.ExecStep Config.default) s s' →
        (∀ j, s'.step Config.default (.exec j) = none) →
        ∀ i prog, s'.tasks i = some prog → ∃ a, prog = .pure a :=
  ⟨_, rfl, untimed_schedules_complete
    (.tail (.tail .refl ⟨.call (.handleSSA 10 7), fun _ => nofun, rfl⟩)
      ⟨.call (.handleSSP 10 7), fun _ => nofun, rfl⟩)⟩

end Sccp.Manager
