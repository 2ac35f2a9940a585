import Sccp.Manager.Step

/-!
# SSN state manager: a call run by itself

In a sequential run each call and each timer callback runs by itself (`Sys.runTask`). Its lock
operations can then wait only for a lock that a goroutine left behind holds, and each handler
becomes a function of the shared memory. `Call.alone` is that function: the memory a call leaves
and its reply, `none` when it stops to wait for a lock. `runAlone_call` proves that the handler's
goroutine program, run by itself, gives exactly `Call.alone`, on every memory whose pointers are
valid and where no goroutine holds a read lock (`World.Valid`).

Each Go function has one lemma saying what it does when its goroutine runs by itself; the
handlers' proofs cite those lemmas and never unfold the callee.
-/
namespace Sccp.Manager

/-- The memory and the value, `none` for a goroutine left waiting. -/
def Outcome.result {α : Type} : Outcome α → World × Option α
  | .done w a => (w, some a)
  | .blocked w _ => (w, none)

@[simp] theorem Outcome.result_done {α : Type} (w : World) (a : α) :
    (Outcome.done w a).result = (w, some a) := rfl

@[simp] theorem Outcome.result_blocked {α : Type} (w : World) (r : Prog α) :
    (Outcome.blocked w r).result = (w, none) := rfl

namespace World

variable (cfg : Config) (w : World)

/-- `GetEntry`, then `AddEntry(pc, ssn, false)` when it returned nil. -/
def getOrAdd (key : Key) : World × Nat :=
  match w.registry key with
  | some p => (w, p)
  | none => (w.addEntry cfg key false, w.nextEntry)

/-- `Timer.Stop` with its result ignored. -/
def cancel (t : Nat) : World :=
  match w.timers t with
  | some tm => if tm.status = .pending then w.setTimer t { tm with status := .stopped } else w
  | none => w

def setState (p : Nat) (st : SSNState) : World := w.modifyEntry p fun e => { e with state := st }

/-- `stopSST` on an entry whose lock is free. -/
def stopTest (p : Nat) : World :=
  let w := match (w.entries p).bind SSNEntry.testTimer with
    | some t => (w.cancel t).modifyEntry p fun e => { e with testTimer := none }
    | none => w
  w.modifyEntry p fun e => { e with testRetries := 0 }

/-- `startSST` on a remote entry whose lock is free: the old timer stopped, the retries and the
interval reset, and a new timer armed with the default interval. -/
def startTest (p : Nat) : World :=
  let w := match (w.entries p).bind SSNEntry.testTimer with
    | some t => w.cancel t
    | none => w
  let w := w.modifyEntry p fun e =>
    { e with testRetries := 0, testInterval := cfg.defaultTestInterval }
  (w.afterFunc cfg.defaultTestInterval p).modifyEntry p fun e => { e with testTimer := some w.nextTimer }

/-- `if sm.OnStateChange != nil { sm.OnStateChange(entry, st, reason) }`. -/
def notifyIf (p : Nat) (st : SSNState) (reason : StateChangeReason) : World :=
  if cfg.onStateChange then w.notify ⟨p, st, reason⟩ else w

/-- `if sm.OnBroadcast != nil { sm.OnBroadcast(b, entry) }`. -/
def broadcastIf (b : BroadcastType) (p : Nat) : World :=
  if cfg.onBroadcast then w.broadcast b p else w

/-- The memory the goroutines may rely on: the registry points at entries, a pointer at or past
`nextEntry` has no entry and a free mutex, no goroutine holds a read lock, and an entry's
`TestTimer` is a timer. -/
structure Valid : Prop where
  registry : ∀ key p, w.registry key = some p → (w.entries p).isSome
  fresh : ∀ p, w.nextEntry ≤ p → w.entries p = none ∧ w.mutex p = .free
  readers : ∀ p, (w.mutex p).readers = []
  timers : ∀ p e t, w.entries p = some e → e.testTimer = some t → (w.timers t).isSome

/-- `HandleSSA` on the entry `p`. -/
def ssaOn (p : Nat) : World × Option Reply :=
  if w.mutex p = .free then
    if (w.entries p).map SSNEntry.state = some .prohibited then
      (((w.setState p .allowed).stopTest p).notifyIf cfg p .allowed .networkInitiated, some (.ok ()))
    else (w, some (.ok ()))
  else (w, none)

/-- `HandleSSP` on the entry `p`. -/
def sspOn (p : Nat) : World × Option Reply :=
  if w.mutex p = .free then
    if (w.entries p).map SSNEntry.state = some .allowed then
      let w' := w.setState p .prohibited
      let w' := if (w.entries p).map SSNEntry.isLocal = some true then w' else w'.startTest cfg p
      (w'.notifyIf cfg p .prohibited .networkInitiated, some (.ok ()))
    else (w, some (.ok ()))
  else (w, none)

/-- `HandleSST` on the entry `p`: only a local entry's lock is taken. -/
def sstOn (p : Nat) : World × Option Reply :=
  if (w.entries p).map SSNEntry.isLocal = some true ∧ w.mutex p ≠ .free then (w, none)
  else (w, some (.ok ()))

/-- `HandleUserInService` on the entry `p`, once found. -/
def uisOn (p : Nat) : World × Option Reply :=
  if (w.entries p).map SSNEntry.isLocal ≠ some true then (w, some (.error .remoteSubsystem))
  else if w.mutex p = .free then
    if (w.entries p).map SSNEntry.state = some .prohibited then
      (((w.setState p .allowed).notifyIf cfg p .allowed .userInitiated).broadcastIf cfg .ssa p,
        some (.ok ()))
    else (w, some (.ok ()))
  else (w, none)

/-- `HandleUserOutOfService` on the entry `p`, once found. -/
def uosOn (p : Nat) : World × Option Reply :=
  if (w.entries p).map SSNEntry.isLocal ≠ some true then (w, some (.error .remoteSubsystem))
  else if w.mutex p = .free then
    if (w.entries p).map SSNEntry.state = some .allowed then
      ((((w.setState p .prohibited).stopTest p).notifyIf cfg p .prohibited .userInitiated).broadcastIf
        cfg .ssp p, some (.ok ()))
    else (w, some (.ok ()))
  else (w, none)

/-- A handler that opens with `GetEntry` and fails with `"SSN entry not found"`. -/
def found (pc : UInt16) (ssn : UInt8) (k : Nat → World × Option Reply) : World × Option Reply :=
  match w.registry (pc, ssn) with
  | some p => k p
  | none => (w, some (.error (.entryNotFound pc ssn)))

/-- The timer callback for entry `p` run by itself as goroutine `j`: it takes the write lock
when it can, and then waits, or waits for the lock. -/
def callbackOn (p j : Nat) : World × Option Reply :=
  if w.canLock p then (w.setMutex p ⟨some j, []⟩, none) else (w, none)

end World

/-- What a call does when it runs by itself: the memory it leaves and its reply, `none` when it
waits for a lock. -/
def Call.alone (cfg : Config) (w : World) : Call → World × Option Reply
  | .addEntry pc ssn isLocal => (w.addEntry cfg (pc, ssn) isLocal, some (.ok ()))
  | .handleUserInService pc ssn => w.found pc ssn (w.uisOn cfg)
  | .handleUserOutOfService pc ssn => w.found pc ssn (w.uosOn cfg)
  | .handleSSA pc ssn => (w.getOrAdd cfg (pc, ssn)).1.ssaOn cfg (w.getOrAdd cfg (pc, ssn)).2
  | .handleSSP pc ssn => (w.getOrAdd cfg (pc, ssn)).1.sspOn cfg (w.getOrAdd cfg (pc, ssn)).2
  | .handleSST pc ssn => (w.getOrAdd cfg (pc, ssn)).1.sstOn (w.getOrAdd cfg (pc, ssn)).2
  | .processSCMGMessage m =>
    let key := (m.affectedPC, m.affectedSSN)
    if m.type = scmgTypeSSA then (w.getOrAdd cfg key).1.ssaOn cfg (w.getOrAdd cfg key).2
    else if m.type = scmgTypeSSP then (w.getOrAdd cfg key).1.sspOn cfg (w.getOrAdd cfg key).2
    else if m.type = scmgTypeSST then (w.getOrAdd cfg key).1.sstOn (w.getOrAdd cfg key).2
    else (w, some (.ok ()))


section Spec

variable (cfg : Config) (i : Nat) {β : Type}

@[simp] theorem runAlone_pure (w : World) (a : β) : runAlone cfg i w (Prog.pure a) = .done w a := rfl

theorem runAlone_getEntry (w : World) (pc : UInt16) (ssn : UInt8) (f : Option Nat → Prog β) :
    runAlone cfg i w ((getEntry pc ssn).bind f) = runAlone cfg i w (f (w.registry (pc, ssn))) := rfl

theorem runAlone_addEntry (w : World) (pc : UInt16) (ssn : UInt8) (l : Bool) (f : Nat → Prog β) :
    runAlone cfg i w ((addEntry pc ssn l).bind f) =
      runAlone cfg i (w.addEntry cfg (pc, ssn) l) (f w.nextEntry) := rfl

theorem runAlone_load {w : World} {p : Nat} {e : SSNEntry} (he : w.entries p = some e)
    (f : SSNEntry → Prog β) : runAlone cfg i w ((load p).bind f) = runAlone cfg i w (f e) := by
  simp [load, runAlone, Prog.bind, World.perform, he]

theorem runAlone_onStateChange (w : World) (p : Nat) (st : SSNState) (r : StateChangeReason)
    (f : Unit → Prog β) :
    runAlone cfg i w ((onStateChange p st r).bind f) = runAlone cfg i (w.notify ⟨p, st, r⟩) (f ()) :=
  rfl

theorem runAlone_onBroadcast (w : World) (b : BroadcastType) (p : Nat) (f : Unit → Prog β) :
    runAlone cfg i w ((onBroadcast b p).bind f) = runAlone cfg i (w.broadcast b p) (f ()) := rfl

/-- `if sm.OnStateChange != nil { sm.OnStateChange(...) }` before the rest `k` of a handler. -/
theorem runAlone_notifyIf (w : World) (p : Nat) (st : SSNState) (r : StateChangeReason)
    (k : Prog β) :
    runAlone cfg i w (if cfg.onStateChange then (onStateChange p st r).bind fun _ => k else k) =
      runAlone cfg i (w.notifyIf cfg p st r) k := by
  unfold World.notifyIf; split <;> rfl

/-- `if sm.OnBroadcast != nil { sm.OnBroadcast(...) }` before the rest `k` of a handler. -/
theorem runAlone_broadcastIf (w : World) (b : BroadcastType) (p : Nat) (k : Prog β) :
    runAlone cfg i w (if cfg.onBroadcast then (onBroadcast b p).bind fun _ => k else k) =
      runAlone cfg i (w.broadcastIf cfg b p) k := by
  unfold World.broadcastIf; split <;> rfl

theorem runAlone_getOrAddEntry (w : World) (pc : UInt16) (ssn : UInt8) (f : Nat → Prog β) :
    runAlone cfg i w ((getOrAddEntry pc ssn).bind f) =
      runAlone cfg i (w.getOrAdd cfg (pc, ssn)).1 (f (w.getOrAdd cfg (pc, ssn)).2) := by
  unfold getOrAddEntry World.getOrAdd
  cases h : w.registry (pc, ssn) <;> simp [runAlone_getEntry, runAlone_addEntry, h]

theorem runAlone_checkState {w : World} {p : Nat} {e : SSNEntry} (he : w.entries p = some e)
    (hm : w.mutex p = .free) (st : SSNState) (f : Bool → Prog β) :
    runAlone cfg i w ((checkState p st).bind f) = runAlone cfg i w (f (e.state == st)) := by
  simp [checkState, withRLock, rLock, rUnlock, load, runAlone, Prog.bind, World.perform,
    World.canRLock, he, hm, RWMutex.free, World.setMutex_of_eq]

theorem runAlone_checkState_wait {w : World} {p : Nat} (hm : (w.mutex p).writer ≠ none)
    (st : SSNState) (f : Bool → Prog β) :
    (runAlone cfg i w ((checkState p st).bind f)).result = (w, none) := by
  simp [checkState, withRLock, rLock, runAlone, Prog.bind, World.perform, World.canRLock, hm]

theorem runAlone_markState {w : World} {p : Nat} {e : SSNEntry} (he : w.entries p = some e)
    (hm : w.mutex p = .free) (st : SSNState) (f : Unit → Prog β) :
    runAlone cfg i w ((markState p st).bind f) = runAlone cfg i (w.setState p st) (f ()) := by
  simp [markState, withLock, lock, unlock, store, runAlone, Prog.bind, World.perform,
    World.canLock, he, hm, RWMutex.free, World.setMutex_of_eq, World.setState]

theorem runAlone_stopSST {w : World} {p : Nat} {e : SSNEntry} (he : w.entries p = some e)
    (hm : w.mutex p = .free) (ht : ∀ t, e.testTimer = some t → (w.timers t).isSome)
    (f : Unit → Prog β) :
    runAlone cfg i w ((stopSST p).bind f) = runAlone cfg i (w.stopTest p) (f ()) := by
  rcases htt : e.testTimer with _ | t
  · simp only [Prog.bind, store, Prog.bind_eq, Prog.pure_eq, unlock, Prog.bind_assoc, runAlone,
      World.perform, World.canLock, he, Option.isSome_some, hm, RWMutex.free, and_self, ↓reduceIte,
      World.setMutex_entries, Option.map_some', htt, World.modifyEntry_setMutex,
      World.setMutex_mutex, Function.update_same, World.setMutex_setMutex, World.modifyEntry_mutex,
      World.setMutex_of_eq, World.stopTest, Option.some_bind]
  · obtain ⟨tm, htm⟩ := Option.isSome_iff_exists.mp (ht t htt)
    by_cases hp : tm.status = .pending <;>
    simp only [Prog.bind, stopTimer, store, Prog.bind_eq, Prog.pure_eq, unlock, Prog.bind_assoc,
        runAlone, World.perform, World.canLock, he, Option.isSome_some, hm, RWMutex.free, and_self,
        ↓reduceIte, World.setMutex_entries, Option.map_some', htt, World.stopTimer,
        World.setMutex_timers, htm, hp, World.setTimer_setMutex, World.modifyEntry_setMutex,
        World.setTimer_entries, World.modifyEntry_modifyEntry, World.modifyEntry_entries,
        Function.update_same, World.setMutex_mutex, World.setMutex_setMutex,
        World.modifyEntry_mutex, World.setTimer_mutex, World.setMutex_of_eq, World.stopTest,
        Option.some_bind, World.cancel]

theorem runAlone_startSST_local {w : World} {p : Nat} {e : SSNEntry} (he : w.entries p = some e)
    (hl : e.isLocal = true) (f : Unit → Prog β) :
    runAlone cfg i w ((startSST cfg p).bind f) = runAlone cfg i w (f ()) := by
  simp [startSST, load, runAlone, Prog.bind, World.perform, he, hl]

theorem runAlone_startSST {w : World} {p : Nat} {e : SSNEntry} (he : w.entries p = some e)
    (hl : e.isLocal = false) (hm : w.mutex p = .free)
    (ht : ∀ t, e.testTimer = some t → (w.timers t).isSome) (f : Unit → Prog β) :
    runAlone cfg i w ((startSST cfg p).bind f) = runAlone cfg i (w.startTest cfg p) (f ()) := by
  rcases htt : e.testTimer with _ | t
  · simp only [Prog.bind, Prog.pure_eq, withLock, lock, load, store, scheduleSST, afterFunc,
      Prog.bind_eq, unlock, runAlone, World.perform, he, Option.map_some', hl, Bool.false_eq_true,
      ↓reduceIte, Prog.bind_assoc, World.canLock, Option.isSome_some, hm, RWMutex.free, and_self,
      World.setMutex_entries, htt, World.modifyEntry_setMutex, World.modifyEntry_entries,
      Function.update_same, World.afterFunc_setMutex, World.setMutex_nextTimer,
      World.modifyEntry_nextTimer, World.afterFunc_entries, World.setMutex_mutex,
      World.setMutex_setMutex, World.modifyEntry_mutex, World.afterFunc_mutex, World.setMutex_of_eq,
      World.startTest, Option.some_bind]
  · obtain ⟨tm, htm⟩ := Option.isSome_iff_exists.mp (ht t htt)
    by_cases hp : tm.status = .pending <;>
    simp only [Prog.bind, Prog.pure_eq, withLock, lock, load, stopTimer, store, scheduleSST,
        afterFunc, Prog.bind_eq, unlock, runAlone, World.perform, he, Option.map_some', hl,
        Bool.false_eq_true, ↓reduceIte, Prog.bind_assoc, World.canLock, Option.isSome_some, hm,
        RWMutex.free, and_self, World.setMutex_entries, htt, World.stopTimer, World.setMutex_timers,
        htm, hp, World.setTimer_setMutex, World.modifyEntry_setMutex, World.setTimer_entries,
        World.modifyEntry_entries, Function.update_same, World.afterFunc_setMutex,
        World.setMutex_nextTimer, World.modifyEntry_nextTimer, World.setTimer_nextTimer,
        World.afterFunc_entries, World.setMutex_mutex, World.setMutex_setMutex,
        World.modifyEntry_mutex, World.afterFunc_mutex, World.setTimer_mutex, World.setMutex_of_eq,
        World.startTest, Option.some_bind, World.cancel]

theorem runAlone_sstCallback (w : World) (p j : Nat) :
    (runAlone cfg j w (sstCallback cfg p)).result = w.callbackOn p j := by
  obtain ⟨k, hk⟩ := sstCallback_eq cfg p
  rw [hk]
  unfold World.callbackOn
  split
  · next h => simp [runAlone, World.perform, World.canRLock, h]
  · next h => simp [runAlone, World.perform, h]

end Spec

namespace World.Valid

variable {cfg : Config} {w : World}

theorem mutex_free (hv : w.Valid) {p : Nat} (hm : (w.mutex p).writer = none) : w.mutex p = .free := by
  have := hv.readers p
  cases h : w.mutex p
  simp_all [RWMutex.free]

theorem writer_ne_none (hv : w.Valid) {p : Nat} (hm : w.mutex p ≠ .free) :
    (w.mutex p).writer ≠ none :=
  fun h => hm (hv.mutex_free h)

theorem addEntry (hv : w.Valid) (key : Key) (isLocal : Bool) : (w.addEntry cfg key isLocal).Valid where
  registry k p h := by
    by_cases hk : k = key
    · subst hk
      simp only [World.addEntry_registry, Function.update_same, Option.some.injEq] at h
      simp [← h]
    · simp only [World.addEntry_registry, Function.update_noteq hk] at h
      have := hv.registry k p h
      by_cases hp : p = w.nextEntry
      · subst hp; simp
      · simpa [Function.update_noteq hp] using this
  fresh p hp := by
    have := hv.fresh p (by simp at hp; omega)
    simp only [World.addEntry_nextEntry] at hp
    simp [Function.update_noteq (show p ≠ w.nextEntry by omega), this]
  readers := hv.readers
  timers p e t he ht := by
    by_cases hp : p = w.nextEntry
    · subst hp
      simp only [World.addEntry_entries, Function.update_same, Option.some.injEq] at he
      simp [← he, SSNEntry.new] at ht
    · simp only [World.addEntry_entries, Function.update_noteq hp] at he
      exact hv.timers p e t he ht

theorem getOrAdd (cfg : Config) (hv : w.Valid) (key : Key) :
    (w.getOrAdd cfg key).1.Valid ∧ ∃ e, (w.getOrAdd cfg key).1.entries (w.getOrAdd cfg key).2 = some e := by
  unfold World.getOrAdd
  split
  · next p h => exact ⟨hv, Option.isSome_iff_exists.mp (hv.registry key p h)⟩
  · exact ⟨hv.addEntry key false, .new cfg key.1 key.2 false, by simp⟩

end World.Valid

section Refinement

variable (cfg : Config) (i : Nat) {w : World}

theorem runAlone_handleSSA (hv : w.Valid) (pc : UInt16) (ssn : UInt8) :
    (runAlone cfg i w (handleSSA cfg pc ssn)).result = (Call.handleSSA pc ssn).alone cfg w := by
  obtain ⟨hv, e, he⟩ := hv.getOrAdd cfg (pc, ssn)
  simp only [handleSSA, Call.alone, Prog.bind_eq, runAlone_getOrAddEntry]
  generalize w.getOrAdd cfg (pc, ssn) = r at hv he ⊢
  obtain ⟨w, p⟩ := r
  dsimp only at hv he ⊢
  unfold World.ssaOn
  by_cases hm : w.mutex p = .free
  · have he' : (w.setState p .allowed).entries p = some { e with state := .allowed } := by
      simp [World.setState, he]
    cases hs : e.state <;>
      simp [hs, hm, he, isProhibited, markAllowed, runAlone_checkState cfg i he hm,
        runAlone_markState cfg i he hm, runAlone_notifyIf,
        runAlone_stopSST cfg i he' (by simpa [World.setState]) (fun t h => hv.timers p e t he h)]
  · rw [if_neg hm, isProhibited, runAlone_checkState_wait cfg i (hv.writer_ne_none hm)]

theorem runAlone_handleSSP (hv : w.Valid) (pc : UInt16) (ssn : UInt8) :
    (runAlone cfg i w (handleSSP cfg pc ssn)).result = (Call.handleSSP pc ssn).alone cfg w := by
  obtain ⟨hv, e, he⟩ := hv.getOrAdd cfg (pc, ssn)
  simp only [handleSSP, Call.alone, Prog.bind_eq, runAlone_getOrAddEntry]
  generalize w.getOrAdd cfg (pc, ssn) = r at hv he ⊢
  obtain ⟨w, p⟩ := r
  dsimp only at hv he ⊢
  unfold World.sspOn
  by_cases hm : w.mutex p = .free
  · have he' : (w.setState p .prohibited).entries p = some { e with state := .prohibited } := by
      simp [World.setState, he]
    cases hs : e.state
    · simp [hs, hm, he, isAllowed, runAlone_checkState cfg i he hm]
    · cases hl : e.isLocal
      · simp [hs, hl, hm, he, isAllowed, markProhibited, runAlone_checkState cfg i he hm,
          runAlone_markState cfg i he hm, runAlone_notifyIf,
          runAlone_startSST cfg i he' hl (by simpa [World.setState]) (fun t h => hv.timers p e t he h)]
      · simp [hs, hl, hm, he, isAllowed, markProhibited, runAlone_checkState cfg i he hm,
          runAlone_markState cfg i he hm, runAlone_notifyIf, runAlone_startSST_local cfg i he' hl]
  · rw [if_neg hm, isAllowed, runAlone_checkState_wait cfg i (hv.writer_ne_none hm)]

theorem runAlone_handleSST (hv : w.Valid) (pc : UInt16) (ssn : UInt8) :
    (runAlone cfg i w (handleSST pc ssn)).result = (Call.handleSST pc ssn).alone cfg w := by
  obtain ⟨hv, e, he⟩ := hv.getOrAdd cfg (pc, ssn)
  simp only [handleSST, Call.alone, Prog.bind_eq, runAlone_getOrAddEntry]
  generalize w.getOrAdd cfg (pc, ssn) = r at hv he ⊢
  obtain ⟨w, p⟩ := r
  dsimp only at hv he ⊢
  unfold World.sstOn
  by_cases hm : w.mutex p = .free
  · cases hl : e.isLocal <;> cases hs : e.state <;>
      simp [hl, hs, he, hm, isAllowed, isProhibited, runAlone_load cfg i he,
        runAlone_checkState cfg i he hm, SCMG.marshalBinary_eq_wire]
  · cases hl : e.isLocal <;>
      simp [hl, he, hm, isAllowed, runAlone_load cfg i he,
        runAlone_checkState_wait cfg i (hv.writer_ne_none hm)]

theorem runAlone_handleUserInService (hv : w.Valid) (pc : UInt16) (ssn : UInt8) :
    (runAlone cfg i w (handleUserInService cfg pc ssn)).result =
      (Call.handleUserInService pc ssn).alone cfg w := by
  simp only [handleUserInService, Call.alone, World.found, Prog.bind_eq, runAlone_getEntry]
  cases hk : w.registry (pc, ssn) with
  | none => rfl
  | some p =>
    obtain ⟨e, he⟩ := Option.isSome_iff_exists.mp (hv.registry _ p hk)
    unfold World.uisOn
    by_cases hm : w.mutex p = .free
    · cases hl : e.isLocal <;> cases hs : e.state <;>
        simp [hl, hs, he, hm, isProhibited, markAllowed, runAlone_load cfg i he,
          runAlone_checkState cfg i he hm, runAlone_markState cfg i he hm, runAlone_notifyIf,
          runAlone_broadcastIf]
    · cases hl : e.isLocal <;>
        simp [hl, he, hm, isProhibited, runAlone_load cfg i he,
          runAlone_checkState_wait cfg i (hv.writer_ne_none hm)]

theorem runAlone_handleUserOutOfService (hv : w.Valid) (pc : UInt16) (ssn : UInt8) :
    (runAlone cfg i w (handleUserOutOfService cfg pc ssn)).result =
      (Call.handleUserOutOfService pc ssn).alone cfg w := by
  simp only [handleUserOutOfService, Call.alone, World.found, Prog.bind_eq, runAlone_getEntry]
  cases hk : w.registry (pc, ssn) with
  | none => rfl
  | some p =>
    obtain ⟨e, he⟩ := Option.isSome_iff_exists.mp (hv.registry _ p hk)
    unfold World.uosOn
    by_cases hm : w.mutex p = .free
    · have he' : (w.setState p .prohibited).entries p = some { e with state := .prohibited } := by
        simp [World.setState, he]
      cases hl : e.isLocal <;> cases hs : e.state <;>
        simp [hl, hs, he, hm, isAllowed, markProhibited, runAlone_load cfg i he,
          runAlone_checkState cfg i he hm, runAlone_markState cfg i he hm, runAlone_notifyIf,
          runAlone_broadcastIf,
          runAlone_stopSST cfg i he' (by simpa [World.setState]) (fun t h => hv.timers p e t he h)]
    · cases hl : e.isLocal <;>
        simp [hl, he, hm, isAllowed, runAlone_load cfg i he,
          runAlone_checkState_wait cfg i (hv.writer_ne_none hm)]

/-- Each call run by itself does what `Call.alone` says. -/
theorem runAlone_call (hv : w.Valid) (c : Call) :
    (runAlone cfg i w (c.prog cfg)).result = c.alone cfg w := by
  cases c with
  | addEntry pc ssn isLocal => simp [Call.prog, Call.alone, runAlone_addEntry]
  | handleUserInService pc ssn => exact runAlone_handleUserInService cfg i hv pc ssn
  | handleUserOutOfService pc ssn => exact runAlone_handleUserOutOfService cfg i hv pc ssn
  | handleSSA pc ssn => exact runAlone_handleSSA cfg i hv pc ssn
  | handleSSP pc ssn => exact runAlone_handleSSP cfg i hv pc ssn
  | handleSST pc ssn => exact runAlone_handleSST cfg i hv pc ssn
  | processSCMGMessage m =>
    simp only [Call.prog, processSCMGMessage, Call.alone]
    split_ifs
    · exact runAlone_handleSSA cfg i hv _ _
    · exact runAlone_handleSSP cfg i hv _ _
    · exact runAlone_handleSST cfg i hv _ _
    · rfl

end Refinement


end Sccp.Manager
