import Sccp.Manager.Deadlock

/-!
# SSN state manager: entries are written under their lock

In the source every write of an entry's fields, and every `time.AfterFunc` for an entry, happens
between that entry's `mutex.Lock()` and the deferred `Unlock()`, and no goroutine holds two entry
locks at once. `Prog.Locked h prog h'` says so of a goroutine's remaining code: started holding
the entry lock `h` (or none), it takes a lock only while holding none, releases, writes and arms
timers only for the entry it holds, and holds `h'` whenever it returns. Every call's program and
every timer callback is `Locked none _ none` (`Call.locked_prog`, `locked_programs`).

`LockInv` ties the lock each goroutine's code holds to the entry's mutex, in every interleaving
(`reachable_lockInv`). So whoever writes an entry or arms a timer for it holds the entry's write
lock (`needsLock_held`), and once a timer callback waits on its own lock nothing ever again
changes that entry or arms a timer for it (`selfWaiting_entry_frozen`).
-/
namespace Sccp.Manager

/-- `Lock` on an entry. -/
def Op.takesLock : Op → Bool
  | .lock _ => true
  | _ => false

/-- The entry whose write lock an operation needs held: `Unlock`, a write of the entry's fields
and `time.AfterFunc` for the entry. -/
def Op.needsLock : Op → Option Nat
  | .unlock p | .store p _ | .afterFunc _ p => some p
  | _ => none

/-- The entry lock held after an operation, from the one held before. -/
def Op.heldAfter : Op → Option Nat → Option Nat
  | .lock p, _ => some p
  | .unlock _, _ => none
  | _, h => h

/-- A goroutine's remaining code, started holding the entry lock `h`: every operation keeps to
the lock discipline, and every return holds `h'`. -/
inductive Prog.Locked {α : Type} : Option Nat → Prog α → Option Nat → Prop
  | pure (h : Option Nat) (a : α) : Locked h (.pure a) h
  | op (h : Option Nat) (o : Op) (next : o.Ret → Prog α) (h' : Option Nat) :
      (o.takesLock = true → h = none) → (∀ p, o.needsLock = some p → h = some p) →
      (∀ r, Locked (o.heldAfter h) (next r) h') → Locked h (.op o next) h'

namespace Prog.Locked

variable {α β : Type} {h h₁ h₂ : Option Nat}

theorem bind {x : Prog α} {f : α → Prog β} (hx : x.Locked h h₁) (hf : ∀ a, (f a).Locked h₁ h₂) :
    (x >>= f).Locked h h₂ := by
  induction hx with
  | pure h a => exact hf a
  | op h o next h' ht hn _ ih => exact .op h o _ h₂ ht hn fun r => ih r hf

/-- Code that ends holding what it started with, followed by more such code. -/
theorem bind_keep {x : Prog α} {f : α → Prog β} (hx : x.Locked h h) (hf : ∀ a, (f a).Locked h h) :
    (x >>= f).Locked h h :=
  hx.bind hf

theorem ite {c : Prop} {d : Decidable c} {x y : Prog α} (hx : x.Locked h h₁)
    (hy : y.Locked h h₁) : (@ite _ c d x y).Locked h h₁ := by
  cases d
  · exact hy
  · exact hx

end Prog.Locked

section Leaves

variable {p : Nat} {h : Option Nat}

theorem locked_neutral {α : Type} {o : Op} (ht : o.takesLock = false) (hn : o.needsLock = none)
    (next : o.Ret → Prog α) (hnext : ∀ r, (next r).Locked h h) : (Prog.op o next).Locked h h :=
  .op h o next h (by simp [ht]) (by simp [hn]) fun r => by
    cases o <;> simp only [Op.takesLock, Op.needsLock, reduceCtorEq] at ht hn <;> exact hnext r

/-- A single operation that neither takes, releases nor needs an entry lock. -/
theorem locked_neutral_op {o : Op} (ht : o.takesLock = false) (hn : o.needsLock = none) :
    (Prog.op o Prog.pure).Locked h h :=
  locked_neutral ht hn _ fun _ => .pure _ _

theorem locked_lock : (lock p).Locked none (some p) :=
  .op none _ _ _ (fun _ => rfl) (by simp [Op.needsLock]) fun _ => .pure _ _

theorem locked_unlock : (unlock p).Locked (some p) none :=
  .op _ _ _ _ (by simp [Op.takesLock]) (by simp [Op.needsLock]) fun _ => .pure _ _

theorem locked_store (f : SSNEntry → SSNEntry) : (store p f).Locked (some p) (some p) :=
  .op _ _ _ _ (by simp [Op.takesLock]) (by simp [Op.needsLock]) fun _ => .pure _ _

theorem locked_afterFunc (d : Int) : (afterFunc d p).Locked (some p) (some p) :=
  .op _ _ _ _ (by simp [Op.takesLock]) (by simp [Op.needsLock]) fun _ => .pure _ _

/-- `mutex.Lock(); defer mutex.Unlock()` around a body that keeps the lock. -/
theorem locked_withLock {α : Type} {body : Prog α} (hb : body.Locked (some p) (some p)) :
    (withLock p body).Locked none none :=
  locked_lock.bind fun _ => hb.bind fun _ => locked_unlock.bind fun _ => .pure _ _

/-- `mutex.RLock(); defer mutex.RUnlock()` around a body that keeps what is held. -/
theorem locked_withRLock {α : Type} {body : Prog α} (hb : body.Locked h h) :
    (withRLock p body).Locked h h :=
  (locked_neutral_op (o := .rLock p) rfl rfl).bind fun _ => hb.bind fun _ =>
    (locked_neutral_op (o := .rUnlock p) rfl rfl).bind fun _ => .pure _ _

end Leaves

section Programs

variable {p : Nat}

theorem locked_getOrAddEntry (pc : UInt16) (ssn : UInt8) :
    (getOrAddEntry pc ssn).Locked none none :=
  (locked_neutral_op (o := .getEntry _) rfl rfl).bind fun
    | some _ => .pure _ _
    | none => locked_neutral_op (o := .addEntry _ _) rfl rfl

theorem locked_checkState {h : Option Nat} (st : SSNState) : (checkState p st).Locked h h :=
  locked_withRLock ((locked_neutral_op (o := .load p) rfl rfl).bind fun _ => .pure _ _)

theorem locked_markState (st : SSNState) : (markState p st).Locked none none :=
  locked_withLock (locked_store _)

theorem locked_scheduleSST : (scheduleSST p).Locked (some p) (some p) :=
  (locked_neutral_op (o := .load p) rfl rfl).bind fun _ =>
    (locked_afterFunc _).bind fun _ => locked_store _

theorem locked_sendSST {h : Option Nat} (pc : UInt16) (ssn : UInt8) :
    (sendSST pc ssn).Locked h h := by
  simp only [sendSST]
  split
  · exact .pure _ _
  · exact (locked_neutral_op (o := .emit _ _) rfl rfl).bind fun _ => .pure _ _

/-- The timer callback and every handler keep to the lock discipline: each entry lock is taken
with none held, and released before the goroutine returns. -/
theorem locked_programs (cfg : Config) (p : Nat) (pc : UInt16) (ssn : UInt8) :
    (sstCallback cfg p).Locked none none ∧ (handleUserInService cfg pc ssn).Locked none none ∧
      (handleUserOutOfService cfg pc ssn).Locked none none ∧
      (handleSSA cfg pc ssn).Locked none none ∧ (handleSSP cfg pc ssn).Locked none none ∧
      (handleSST pc ssn).Locked none none := by
  refine ⟨?_, ?_, ?_, ?_, ?_, ?_⟩ <;>
  simp only [sstCallback, performSST, Manager.handleSSA, Manager.handleSSP, Manager.handleSST,
    Manager.handleUserInService, Manager.handleUserOutOfService, isAllowed, isProhibited,
    markAllowed, markProhibited, stopSST, startSST, Prog.pure_eq] <;>
  repeat' first
    | with_reducible first
      | refine Prog.Locked.bind_keep ?_ fun _ => ?_
      | refine Prog.Locked.ite ?_ ?_
      | exact locked_checkState _
      | exact locked_markState _
      | exact locked_sendSST _ _
      | exact locked_scheduleSST
      | exact locked_getOrAddEntry _ _
      | exact locked_store _
      | exact locked_afterFunc _
      | exact .pure _ _
      | refine locked_withLock ?_
    | exact locked_neutral_op rfl rfl
    | split

end Programs

/-- Every call into the API keeps to the lock discipline. -/
theorem Call.locked_prog (cfg : Config) : ∀ c : Call, (c.prog cfg).Locked none none
  | .addEntry .. => (locked_neutral_op (o := .addEntry _ _) rfl rfl).bind fun _ => .pure _ _
  | .handleUserInService pc ssn => (locked_programs cfg 0 pc ssn).2.1
  | .handleUserOutOfService pc ssn => (locked_programs cfg 0 pc ssn).2.2.1
  | .handleSSA pc ssn => (locked_programs cfg 0 pc ssn).2.2.2.1
  | .handleSSP pc ssn => (locked_programs cfg 0 pc ssn).2.2.2.2.1
  | .handleSST pc ssn => (locked_programs cfg 0 pc ssn).2.2.2.2.2
  | .processSCMGMessage scmg =>
    have h := locked_programs cfg 0 scmg.affectedPC scmg.affectedSSN
    .ite h.2.2.2.1 (.ite h.2.2.2.2.1 (.ite h.2.2.2.2.2 (.pure _ _)))

section Frame

variable {cfg : Config} {w : World} {j : Nat} {o : Op} {r : World × o.Ret}

/-- What one operation does to the write locks: `Lock` takes a free one of an existing entry for
the performer, `Unlock` releases the performer's own, and no other operation changes a writer. -/
theorem perform_writers (h : w.perform cfg j o = some r) :
    (∃ q, o = .lock q ∧ (w.entries q).isSome ∧ w.mutex q = .free ∧
      ∀ p, (r.1.mutex p).writer = if p = q then some j else (w.mutex p).writer) ∨
    (∃ q, o = .unlock q ∧ (w.mutex q).writer = some j ∧
      ∀ p, (r.1.mutex p).writer = if p = q then none else (w.mutex p).writer) ∨
    ((∀ q, o ≠ .lock q ∧ o ≠ .unlock q) ∧ ∀ p, (r.1.mutex p).writer = (w.mutex p).writer) := by
  cases o with
  | lock q | unlock q =>
    simp only [World.perform] at h
    split_ifs at h with hc
    cases h
    first
      | refine .inl ⟨q, rfl, hc.1, hc.2, fun p => ?_⟩
      | refine .inr (.inl ⟨q, rfl, hc, fun p => ?_⟩)
    simp only [World.setMutex_mutex, Function.update_apply]
    split_ifs <;> rfl
  | rLock q | rUnlock q =>
    simp only [World.perform] at h
    split_ifs at h with hc
    cases h
    refine .inr (.inr ⟨fun _ => ⟨nofun, nofun⟩, fun p => ?_⟩)
    simp only [World.setMutex_mutex, Function.update_apply]
    split_ifs with hp
    · subst hp
      first
        | exact hc.2.symm
        | rfl
    · rfl
  | stopTimer t =>
    refine .inr (.inr ⟨fun _ => ⟨nofun, nofun⟩, ?_⟩)
    rcases w.stopTimer_eq_some h with h | ⟨tm, -, h⟩ <;> rw [h] <;> exact fun _ => rfl
  | _ =>
    refine .inr (.inr ⟨fun _ => ⟨nofun, nofun⟩, ?_⟩)
    simp only [World.perform, Option.map_eq_some'] at h
    obtain ⟨_, -, rfl⟩ := h
    exact fun _ => rfl

/-- Another goroutine's write locks are as they were. -/
theorem perform_writer_iff (h : w.perform cfg j o = some r) {p k : Nat} (hk : k ≠ j) :
    (r.1.mutex p).writer = some k ↔ (w.mutex p).writer = some k := by
  rcases perform_writers h with ⟨q, -, -, hq, hw⟩ | ⟨q, -, hq, hw⟩ | ⟨-, hw⟩ <;> rw [hw p]
  · split_ifs with hp
    · subst hp; simp [hq, RWMutex.free, Ne.symm hk]
    · rfl
  · split_ifs with hp
    · subst hp; simp [hq, Ne.symm hk]
    · rfl

theorem perform_nextEntry (h : w.perform cfg j o = some r) : w.nextEntry ≤ r.1.nextEntry := by
  cases o with
  | stopTimer t => rcases w.stopTimer_eq_some h with h | ⟨tm, -, h⟩ <;> rw [h]; rfl
  | addEntry key l => cases h; exact Nat.le_succ _
  | _ =>
    simp only [World.perform, Option.map_eq_some'] at h
    first
      | (obtain ⟨_, -, rfl⟩ := h; exact le_rfl)
      | (split_ifs at h; cases h; exact le_rfl)

/-- An entry below `nextEntry` changes only by a write to it. -/
theorem perform_entries (h : w.perform cfg j o = some r) {p : Nat} (hp : p < w.nextEntry)
    (hs : o.needsLock ≠ some p) : r.1.entries p = w.entries p := by
  cases o with
  | stopTimer t => rcases w.stopTimer_eq_some h with h | ⟨tm, -, h⟩ <;> rw [h]; rfl
  | addEntry key l => cases h; exact Function.update_noteq (Nat.ne_of_lt hp) _ _
  | store q f =>
    obtain ⟨_, -, rfl⟩ := Option.map_eq_some'.mp h
    exact Function.update_noteq (fun he => hs (by rw [he]; rfl)) _ _
  | _ =>
    simp only [World.perform, Option.map_eq_some'] at h
    first
      | (obtain ⟨_, -, rfl⟩ := h; rfl)
      | (split_ifs at h; cases h; rfl)

/-- No entry appears at or past `nextEntry`. -/
theorem perform_freshEntry (h : w.perform cfg j o = some r)
    (hf : ∀ p, w.nextEntry ≤ p → w.entries p = none) :
    ∀ p, r.1.nextEntry ≤ p → r.1.entries p = none := by
  cases o with
  | stopTimer t => rcases w.stopTimer_eq_some h with h | ⟨tm, -, h⟩ <;> rw [h] <;> exact hf
  | addEntry key l =>
    cases h
    intro p hp
    simp only [World.addEntry_nextEntry] at hp
    simp [Function.update_noteq (show p ≠ w.nextEntry by omega), hf p (by omega)]
  | store q f =>
    obtain ⟨_, -, rfl⟩ := Option.map_eq_some'.mp h
    intro p hp
    simp only [World.modifyEntry_entries, Function.update_apply]
    split_ifs with hq
    · subst hq; simp [hf _ hp]
    · exact hf p hp
  | _ =>
    simp only [World.perform, Option.map_eq_some'] at h
    first
      | (obtain ⟨_, -, rfl⟩ := h; exact hf)
      | (split_ifs at h; cases h; exact hf)

/-- A timer for an entry is armed only by `time.AfterFunc` for that entry. -/
theorem perform_timer_entry (h : w.perform cfg j o = some r) {p : Nat} (hs : o.needsLock ≠ some p)
    {t : Nat} (ht : (r.1.timers t).map Timer.entry = some p) :
    (w.timers t).map Timer.entry = some p := by
  cases o with
  | stopTimer t' =>
    rcases w.stopTimer_eq_some h with h | ⟨tm, htm, h⟩ <;> rw [h] at ht
    · exact ht
    · simp only [World.setTimer_timers, Function.update_apply] at ht
      split_ifs at ht with he
      · subst he; simpa [htm] using ht
      · exact ht
  | afterFunc d q =>
    cases h
    simp only [World.afterFunc_timers, Function.update_apply] at ht
    split_ifs at ht with he
    · simp only [Option.map_some', Option.some.injEq] at ht
      exact absurd (by rw [ht]; rfl) hs
    · exact ht
  | _ =>
    simp only [World.perform, Option.map_eq_some'] at h
    first
      | (obtain ⟨_, -, rfl⟩ := h; exact ht)
      | (split_ifs at h; cases h; exact ht)

end Frame

theorem Op.heldAfter_cases (o : Op) (h : Option Nat) :
    (∃ q, o = .lock q) ∨ (∃ q, o = .unlock q) ∨ o.heldAfter h = h := by
  cases o <;> simp [heldAfter]

/-- The performer's write locks follow `Op.heldAfter`, for an operation that keeps to the lock
discipline from the lock `held` it holds. -/
theorem perform_held {cfg : Config} {w : World} {j : Nat} {o : Op} {r : World × o.Ret}
    (h : w.perform cfg j o = some r) {held : Option Nat}
    (hw : ∀ p, (w.mutex p).writer = some j ↔ held = some p) (ht : o.takesLock = true → held = none)
    (hn : ∀ p, o.needsLock = some p → held = some p) (p : Nat) :
    (r.1.mutex p).writer = some j ↔ o.heldAfter held = some p := by
  rcases perform_writers h with ⟨q, rfl, -, -, hw'⟩ | ⟨q, rfl, -, hw'⟩ | ⟨ho, hw'⟩ <;> rw [hw' p]
  · -- `Lock`, taken while holding none
    split_ifs with hp
    · subst hp; simp [Op.heldAfter]
    · rw [hw p, ht rfl]; simp [Op.heldAfter, Ne.symm hp]
  · -- `Unlock` of the lock held
    split_ifs with hp
    · simp [Op.heldAfter]
    · rw [hw p, hn q rfl]; simp [Op.heldAfter, Ne.symm hp]
  · rcases o.heldAfter_cases held with ⟨q, rfl⟩ | ⟨q, rfl⟩ | he
    · exact absurd rfl (ho q).1
    · exact absurd rfl (ho q).2
    · rw [he]; exact hw p

/-- Each goroutine's remaining code keeps to the lock discipline from the entry lock it holds and
ends holding none, and the entries whose writer it is are exactly the one it holds; only a
goroutine is a writer; every write lock is on an entry below `nextEntry`, and no entry lies at
or past it. -/
structure LockInv (s : Sys) : Prop where
  tasks : ∀ i prog, s.tasks i = some prog →
    ∃ h, prog.Locked h none ∧ ∀ p, (s.world.mutex p).writer = some i ↔ h = some p
  freshTask : ∀ j, s.nextTask ≤ j → s.tasks j = none
  writer_task : ∀ p i, (s.world.mutex p).writer = some i → (s.tasks i).isSome
  writer_lt : ∀ p i, (s.world.mutex p).writer = some i → p < s.world.nextEntry
  freshEntry : ∀ p, s.world.nextEntry ≤ p → s.world.entries p = none

namespace LockInv

variable {cfg : Config} {s s' : Sys}

theorem init : LockInv Sys.init where
  tasks _ _ h := by cases h
  freshTask _ _ := rfl
  writer_task _ _ h := by cases h
  writer_lt _ _ h := by cases h
  freshEntry _ _ := rfl

/-- No goroutine that does not exist yet holds a lock. -/
theorem writer_ne_nextTask (hs : LockInv s) (p : Nat) :
    (s.world.mutex p).writer ≠ some s.nextTask := fun hw => by
  simpa [hs.freshTask _ le_rfl] using hs.writer_task p _ hw

/-- A new goroutine starts holding no lock. -/
theorem spawn (hs : LockInv s) {prog : Prog Reply} (hp : prog.Locked none none) :
    LockInv (s.spawn prog) where
  tasks i prog' hi := by
    by_cases hn : i = s.nextTask
    · subst hn
      simp only [Sys.spawn, Function.update_same, Option.some.injEq] at hi
      exact ⟨none, hi ▸ hp, fun p => iff_of_false (hs.writer_ne_nextTask p) nofun⟩
    · exact hs.tasks i prog' (by simpa [Sys.spawn, Function.update_noteq hn] using hi)
  freshTask j hj := by
    simp only [Sys.spawn] at hj ⊢
    rw [Function.update_noteq (by omega)]
    exact hs.freshTask j (by omega)
  writer_task p i hw := by
    have hne : i ≠ s.nextTask := fun he => hs.writer_ne_nextTask p (he ▸ hw)
    simpa [Sys.spawn, Function.update_noteq hne] using hs.writer_task p i hw
  writer_lt := hs.writer_lt
  freshEntry := hs.freshEntry

/-- A timer changing state touches no lock and no entry. -/
theorem setTimer (hs : LockInv s) (t : Nat) (tm : Timer) :
    LockInv { s with world := s.world.setTimer t tm } :=
  ⟨hs.tasks, hs.freshTask, hs.writer_task, hs.writer_lt, hs.freshEntry⟩

/-- One operation of goroutine `i`, where `o` is its next operation. -/
theorem exec (hs : LockInv s) {i : Nat} {o : Op} {next : o.Ret → Prog Reply}
    (hi : s.tasks i = some (.op o next)) {r : World × o.Ret}
    (hr : s.world.perform cfg i o = some r) :
    LockInv { s with world := r.1, tasks := Function.update s.tasks i (some (next r.2)) } where
  tasks k prog hk := by
    by_cases hki : k = i
    · subst hki
      simp only [Function.update_same, Option.some.injEq] at hk
      subst hk
      obtain ⟨h, hL, hw⟩ := hs.tasks k _ hi
      cases hL with
      | op _ _ _ _ ht hn hnext => exact ⟨o.heldAfter h, hnext r.2, perform_held hr hw ht hn⟩
    · simp only [Function.update_noteq hki] at hk
      obtain ⟨h, hL, hw⟩ := hs.tasks k prog hk
      exact ⟨h, hL, fun p => (perform_writer_iff hr hki).trans (hw p)⟩
  freshTask j hj := by
    have hji : j ≠ i := fun he => by subst he; simp [hs.freshTask j hj] at hi
    simpa [Function.update_noteq hji] using hs.freshTask j hj
  writer_task p k hw := by
    by_cases hki : k = i
    · subst hki; simp
    · simpa [Function.update_noteq hki] using hs.writer_task p k ((perform_writer_iff hr hki).mp hw)
  writer_lt p k hw := by
    refine Nat.lt_of_lt_of_le ?_ (perform_nextEntry hr)
    rcases perform_writers hr with ⟨q, -, hq, -, hw'⟩ | ⟨q, -, -, hw'⟩ | ⟨-, hw'⟩ <;>
      rw [hw' p] at hw
    · split_ifs at hw with hp
      · subst hp
        exact Nat.lt_of_not_le fun hle => by simp [hs.freshEntry p hle] at hq
      · exact hs.writer_lt p k hw
    · split_ifs at hw
      exact hs.writer_lt p k hw
    · exact hs.writer_lt p k hw
  freshEntry := perform_freshEntry hr hs.freshEntry

theorem step (hs : LockInv s) {a : Action} (h : s.step cfg a = some s') : LockInv s' := by
  cases a with
  | call c =>
    obtain rfl := Sys.step_call cfg h
    exact hs.spawn (Call.locked_prog cfg c)
  | fire t =>
    obtain ⟨tm, -, -, rfl⟩ := Sys.step_fire cfg h
    exact (hs.setTimer _ _).spawn (locked_programs cfg tm.entry 0 0).1
  | exec i =>
    obtain ⟨o, next, r, hi, hr, rfl⟩ := Sys.step_exec cfg h
    exact hs.exec hi hr

/-- A goroutine about to write an entry's fields, release its lock or arm a timer for it holds
the entry's write lock. -/
theorem needsLock (hs : LockInv s) {i : Nat} {o : Op} {next : o.Ret → Prog Reply}
    (hi : s.tasks i = some (.op o next)) {p : Nat} (hp : o.needsLock = some p) :
    (s.world.mutex p).writer = some i := by
  obtain ⟨h, hL, hw⟩ := hs.tasks i _ hi
  cases hL with
  | op _ _ _ _ _ hn _ => exact (hw p).mpr (hn p hp)

/-- While goroutine `i` waits on its own lock of entry `p`, no step writes that entry or arms a
timer for it: whoever did would hold the write lock goroutine `i` holds. -/
theorem selfWaiting_step (hs : LockInv s) {i p : Nat} (hi : s.SelfWaiting i p) {a : Action}
    (h : s.step cfg a = some s') :
    s'.world.entries p = s.world.entries p ∧ ∀ t,
      (s'.world.timers t).map Timer.entry = some p → (s.world.timers t).map Timer.entry = some p := by
  cases a with
  | call c => obtain rfl := Sys.step_call cfg h; exact ⟨rfl, fun _ ht => ht⟩
  | fire t =>
    obtain ⟨tm, htm, -, rfl⟩ := Sys.step_fire cfg h
    refine ⟨rfl, fun t' ht => ?_⟩
    simp only [Sys.spawn, World.setTimer_timers, Function.update_apply] at ht
    split_ifs at ht with he
    · subst he; simpa [htm] using ht
    · exact ht
  | exec j =>
    obtain ⟨o, next, r, hj, hr, rfl⟩ := Sys.step_exec cfg h
    have hs' : o.needsLock ≠ some p := fun hp => by
      -- goroutine `j` would hold the write lock goroutine `i` holds, so it is `i`, at its `RLock`
      obtain rfl : j = i := Option.some.inj ((hs.needsLock hj hp).symm.trans hi.2.1)
      have hreq := hi.1
      simp only [Sys.lockRequest, hj, Option.some_bind] at hreq
      cases o <;> simp [Prog.lockRequest, Op.needsLock] at hreq hp
    exact ⟨perform_entries hr (hs.writer_lt p i hi.2.1) hs', fun t ht => perform_timer_entry hr hs' ht⟩

end LockInv

theorem reachable_lockInv {cfg : Config} {s : Sys} (h : Reachable cfg s) : LockInv s := by
  induction h with
  | refl => exact .init
  | tail _ hstep ih => obtain ⟨a, ha⟩ := hstep; exact ih.step ha

/-- In every interleaving, a goroutine about to write an entry's fields, release its lock or arm
a timer for it holds the entry's write lock. -/
theorem needsLock_held {cfg : Config} {s : Sys} (hr : Reachable cfg s) {i : Nat} {o : Op}
    {next : o.Ret → Prog Reply} (hi : s.tasks i = some (.op o next)) {p : Nat}
    (hp : o.needsLock = some p) : (s.world.mutex p).writer = some i :=
  (reachable_lockInv hr).needsLock hi hp

/-- `HandleSSA(10, 7)` on the new manager, run step by step up to the `store` of `MarkAllowed`:
its goroutine holds entry 0's write lock. -/
theorem needsLock_held_markAllowed :
    ∃ s o k, run Config.default [.call (.handleSSA 10 7), .exec 0, .exec 0, .exec 0, .exec 0,
        .exec 0, .exec 0] Sys.init = some s ∧
      s.tasks 0 = some (.op o k) ∧ o.needsLock = some 0 ∧ (s.world.mutex 0).writer = some 0 := by
  have hc : (run Config.default [.call (.handleSSA 10 7), .exec 0, .exec 0, .exec 0, .exec 0,
      .exec 0, .exec 0] Sys.init).map (fun s => match s.tasks 0 with
        | some (.op o _) => o.needsLock
        | _ => none) = some (some 0) := by decide
  obtain ⟨s, hs, hc⟩ := Option.map_eq_some'.mp hc
  split at hc
  · next o k hi => exact ⟨s, o, k, hs, hi, hc, needsLock_held (run_steps _ _ _ _ hs) hi hc⟩
  · cases hc

/-- In every interleaving each goroutine holds at most one entry's write lock, and one that has
returned holds none: every `Lock` is released before its goroutine ends. -/
theorem write_locks_never_leak {cfg : Config} {s : Sys} (hr : Reachable cfg s) :
    (∀ i p q, (s.world.mutex p).writer = some i → (s.world.mutex q).writer = some i → p = q) ∧
      ∀ i (a : Reply), s.tasks i = some (.pure a) → ∀ p, (s.world.mutex p).writer ≠ some i := by
  have hs := reachable_lockInv hr
  refine ⟨fun i p q hp hq => ?_, fun i a hi p hp => ?_⟩
  · obtain ⟨prog, hprog⟩ := Option.isSome_iff_exists.mp (hs.writer_task p i hp)
    obtain ⟨h, -, hw⟩ := hs.tasks i prog hprog
    exact Option.some.inj (((hw p).mp hp).symm.trans ((hw q).mp hq))
  · obtain ⟨h, hL, hw⟩ := hs.tasks i _ hi
    cases hL
    exact nomatch (hw p).mp hp

/-- After `deadlockRun` the stuck timer callback, goroutine 2, holds entry 0's write lock, and
goroutine 0, whose SSA has returned, holds none. -/
theorem write_locks_never_leak_deadlockRun :
    ∃ s, seqRun Config.default deadlockRun Sys.init = some s ∧
      (s.world.mutex 0).writer = some 2 ∧ s.tasks 0 = some (.pure (.ok ())) ∧
      (∀ i p q, (s.world.mutex p).writer = some i → (s.world.mutex q).writer = some i → p = q) ∧
      ∀ i (a : Reply), s.tasks i = some (.pure a) → ∀ p, (s.world.mutex p).writer ≠ some i := by
  obtain ⟨s, hs⟩ := Option.isSome_iff_exists.mp
    (show (seqRun Config.default deadlockRun Sys.init).isSome by decide)
  have hc : (s.world.mutex 0).writer = some 2 ∧ s.tasks 0 = some (.pure (.ok ())) := by
    have h : (seqRun Config.default deadlockRun Sys.init).map (fun s =>
        decide ((s.world.mutex 0).writer = some 2) &&
          (match s.tasks 0 with | some (.pure (.ok ())) => true | _ => false)) = some true := by
      decide
    simp only [hs, Option.map_some', Option.some.injEq, Bool.and_eq_true, decide_eq_true_eq] at h
    refine ⟨h.1, ?_⟩
    revert h
    split <;> simp_all
  obtain ⟨h₁, h₂⟩ := write_locks_never_leak (seqRun_steps _ _ _ _ hs)
  exact ⟨s, hs, hc.1, hc.2, h₁, h₂⟩

/-- Once a goroutine waits on its own lock of entry `p`, every continuation leaves the entry as it
was and arms no new timer for it. -/
theorem selfWaiting_entry_frozen {cfg : Config} {s s' : Sys} (hr : Reachable cfg s) {i p : Nat}
    (hi : s.SelfWaiting i p) (h : Relation.ReflTransGen (Sys.Next cfg) s s') :
    s'.world.entries p = s.world.entries p ∧ ∀ t,
      (s'.world.timers t).map Timer.entry = some p → (s.world.timers t).map Timer.entry = some p := by
  induction h with
  | refl => exact ⟨rfl, fun _ ht => ht⟩
  | tail hsb hstep ih =>
    obtain ⟨a, ha⟩ := hstep
    obtain ⟨he, ht⟩ :=
      (reachable_lockInv (hr.trans hsb)).selfWaiting_step (Sys.selfWaiting_steps hsb hi) ha
    exact ⟨he.trans ih.1, fun t h' => ih.2 t (ht t h')⟩

/-- After `deadlockRun` the timer callback, goroutine 2, waits on its own lock of entry 0, so entry
0 stays as it is and gets no new timer in every continuation. -/
theorem selfWaiting_entry_frozen_deadlockRun :
    ∃ s, seqRun Config.default deadlockRun Sys.init = some s ∧ s.SelfWaiting 2 0 ∧
      ∀ s', Relation.ReflTransGen (Sys.Next Config.default) s s' →
        s'.world.entries 0 = s.world.entries 0 ∧ ∀ t, (s'.world.timers t).map Timer.entry = some 0 →
          (s.world.timers t).map Timer.entry = some 0 := by
  obtain ⟨s, hs⟩ := Option.isSome_iff_exists.mp
    (show (seqRun Config.default deadlockRun Sys.init).isSome by decide)
  have hc : (seqRun Config.default deadlockRun Sys.init).map
      (fun s => decide (s.SelfWaiting 2 0)) = some true := by decide
  simp only [hs, Option.map_some', Option.some.injEq, decide_eq_true_eq] at hc
  exact ⟨s, hs, hc, fun s' h => selfWaiting_entry_frozen (seqRun_steps _ _ _ _ hs) hc h⟩

end Sccp.Manager
