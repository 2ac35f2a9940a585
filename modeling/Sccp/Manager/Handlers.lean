import Sccp.Manager.Prog

/-!
# SSN state manager: the handlers

The methods of `SSNEntry` and `SSNStateManager` as goroutine programs, step by step as the source
performs them. `mu.Lock(); defer mu.Unlock()` is `withLock`: an early `return` leaves the body and
the unlock still follows, as the deferred call does. A plain read of `entry.IsLocal` is a `load`,
taken without the lock as in the source.
-/
namespace Sccp.Manager

/-- `mutex.Lock(); defer mutex.Unlock()` around `body`. -/
def withLock {α : Type} (entry : Nat) (body : Prog α) : Prog α := do
  lock entry
  let r ← body
  unlock entry
  return r

/-- `mutex.RLock(); defer mutex.RUnlock()` around `body`. -/
def withRLock {α : Type} (entry : Nat) (body : Prog α) : Prog α := do
  rLock entry
  let r ← body
  rUnlock entry
  return r

/-- `IsAllowed` and `IsProhibited`: the state compared under the read lock. -/
def checkState (entry : Nat) (st : SSNState) : Prog Bool := withRLock entry do
  let e ← load entry
  return e.state == st

def isAllowed (entry : Nat) : Prog Bool := checkState entry .allowed

def isProhibited (entry : Nat) : Prog Bool := checkState entry .prohibited

/-- `MarkAllowed` and `MarkProhibited`: the state written under the write lock. -/
def markState (entry : Nat) (st : SSNState) : Prog Unit :=
  withLock entry (store entry fun e => { e with state := st })

def markAllowed (entry : Nat) : Prog Unit := markState entry .allowed

def markProhibited (entry : Nat) : Prog Unit := markState entry .prohibited

/-- `scheduleSST`, called with the entry lock held. -/
def scheduleSST (entry : Nat) : Prog Unit := do
  let e ← load entry
  let t ← afterFunc e.testInterval entry
  store entry fun e => { e with testTimer := some t }

/-- `stopSST`. The result of `Stop` is ignored. -/
def stopSST (entry : Nat) : Prog Unit := withLock entry do
  let e ← load entry
  if let some t := e.testTimer then
    let _ ← stopTimer t
    store entry fun e => { e with testTimer := none }
  store entry fun e => { e with testRetries := 0 }

/-- `sendSST`: the SST is marshalled and handed on; the source only logs its octets there. -/
def sendSST (pc : UInt16) (ssn : UInt8) : Prog Reply := do
  let sst := SCMG.newSCMG scmgTypeSST ssn pc 0 0
  match sst.marshalBinary with
  | .error err => return .error (.marshalSST err)
  | .ok sstBytes =>
    emit (getKey pc ssn) sstBytes
    return .ok ()

/-- `entry := sm.GetEntry(pc, ssn); if entry == nil { entry = sm.AddEntry(pc, ssn, false) }`,
which opens `HandleSSA`, `HandleSSP` and `HandleSST`. -/
def getOrAddEntry (pc : UInt16) (ssn : UInt8) : Prog Nat := do
  match ← getEntry pc ssn with
  | some entry => return entry
  | none => addEntry pc ssn false

section Handlers

variable (cfg : Config)

/-- `startSST`. It returns at once for a local entry. -/
def startSST (entry : Nat) : Prog Unit := do
  let e ← load entry
  if e.isLocal then return
  withLock entry do
    let e ← load entry
    if let some t := e.testTimer then
      let _ ← stopTimer t
    store entry fun e => { e with testRetries := 0, testInterval := cfg.defaultTestInterval }
    scheduleSST entry

/-- `performSST`: it holds the entry's write lock while `IsAllowed` asks for a read lock on the
same mutex. -/
def performSST (entry : Nat) : Prog Unit := withLock entry do
  if (← isAllowed entry) then return
  let e ← load entry
  let _ ← sendSST e.pointCode e.ssn
  store entry fun e => { e with testRetries := wrapInt64 (e.testRetries + 1) }
  let e ← load entry
  if e.testRetries ≥ e.maxTestRetries then return
  store entry fun e => { e with testInterval := wrapInt64 (e.testInterval * 2) }
  let e ← load entry
  if e.testInterval > cfg.maxTestInterval then
    store entry fun e => { e with testInterval := cfg.maxTestInterval }
  scheduleSST entry

/-- The goroutine a fired timer runs: `func() { sm.performSST(entry) }`. -/
def sstCallback (entry : Nat) : Prog Reply := do
  performSST cfg entry
  return .ok ()

/-- The callback takes the entry's write lock and next asks for a read lock on it. -/
theorem sstCallback_eq (p : Nat) :
    ∃ k, sstCallback cfg p = .op (.lock p) fun _ => .op (.rLock p) k := ⟨_, rfl⟩

def handleUserInService (pc : UInt16) (ssn : UInt8) : Prog Reply := do
  let some entry ← getEntry pc ssn | return .error (.entryNotFound pc ssn)
  let e ← load entry
  if !e.isLocal then return .error .remoteSubsystem
  if (← isProhibited entry) then
    markAllowed entry
    if cfg.onStateChange then onStateChange entry .allowed .userInitiated
    if cfg.onBroadcast then onBroadcast .ssa entry
  return .ok ()

def handleUserOutOfService (pc : UInt16) (ssn : UInt8) : Prog Reply := do
  let some entry ← getEntry pc ssn | return .error (.entryNotFound pc ssn)
  let e ← load entry
  if !e.isLocal then return .error .remoteSubsystem
  if (← isAllowed entry) then
    markProhibited entry
    stopSST entry
    if cfg.onStateChange then onStateChange entry .prohibited .userInitiated
    if cfg.onBroadcast then onBroadcast .ssp entry
  return .ok ()

def handleSSA (pc : UInt16) (ssn : UInt8) : Prog Reply := do
  let entry ← getOrAddEntry pc ssn
  if (← isProhibited entry) then
    markAllowed entry
    stopSST entry
    if cfg.onStateChange then onStateChange entry .allowed .networkInitiated
  return .ok ()

def handleSSP (pc : UInt16) (ssn : UInt8) : Prog Reply := do
  let entry ← getOrAddEntry pc ssn
  if (← isAllowed entry) then
    markProhibited entry
    startSST cfg entry
    if cfg.onStateChange then onStateChange entry .prohibited .networkInitiated
  return .ok ()

/-- `HandleSST`. `entry.IsLocal && entry.IsAllowed()` evaluates `IsAllowed` only for a local
entry, and the `else if` reads `IsLocal` again; the SSA response is marshalled and logged, not
sent. -/
def handleSST (pc : UInt16) (ssn : UInt8) : Prog Reply := do
  let entry ← getOrAddEntry pc ssn
  let e ← load entry
  let allowed ← if e.isLocal then isAllowed entry else pure false
  if allowed then
    let ssa := SCMG.newSCMG scmgTypeSSA ssn pc 0 0
    match ssa.marshalBinary with
    | .error err => return .error (.marshalSSAResponse err)
    | .ok _ => pure ()
  else
    let e ← load entry
    if e.isLocal then
      let _ ← isProhibited entry
  return .ok ()

def processSCMGMessage (scmg : SCMG) : Prog Reply :=
  if scmg.type = scmgTypeSSA then handleSSA cfg scmg.affectedPC scmg.affectedSSN
  else if scmg.type = scmgTypeSSP then handleSSP cfg scmg.affectedPC scmg.affectedSSN
  else if scmg.type = scmgTypeSST then handleSST scmg.affectedPC scmg.affectedSSN
  else pure (.ok ())

end Handlers

/-- A call into the manager's API from a goroutine of the user's. -/
inductive Call where
  | addEntry (pc : UInt16) (ssn : UInt8) (isLocal : Bool)
  | handleUserInService (pc : UInt16) (ssn : UInt8)
  | handleUserOutOfService (pc : UInt16) (ssn : UInt8)
  | handleSSA (pc : UInt16) (ssn : UInt8)
  | handleSSP (pc : UInt16) (ssn : UInt8)
  | handleSST (pc : UInt16) (ssn : UInt8)
  | processSCMGMessage (scmg : SCMG)
  deriving DecidableEq, Repr

/-- The program a goroutine runs for a call. -/
def Call.prog (cfg : Config) : Call → Prog Reply
  | .addEntry pc ssn isLocal => do
    let _ ← Manager.addEntry pc ssn isLocal
    return .ok ()
  | .handleUserInService pc ssn => Manager.handleUserInService cfg pc ssn
  | .handleUserOutOfService pc ssn => Manager.handleUserOutOfService cfg pc ssn
  | .handleSSA pc ssn => Manager.handleSSA cfg pc ssn
  | .handleSSP pc ssn => Manager.handleSSP cfg pc ssn
  | .handleSST pc ssn => Manager.handleSST pc ssn
  | .processSCMGMessage scmg => Manager.processSCMGMessage cfg scmg

/-- What an operation does to the rest of the system, as far as the invariants look: a `store`
keeps what the entry is, its SSN, point code, locality and retry bound, and writes `State` only
when `states` is set; `OnStateChange` fires only when `states` is set, and an SST goes to the
transport only when `emits` is. -/
def Op.Effect (states emits : Bool) : Op → Prop
  | .store _ f => ∀ e : SSNEntry, (f e).ssn = e.ssn ∧ (f e).pointCode = e.pointCode ∧
      (f e).isLocal = e.isLocal ∧ (f e).maxTestRetries = e.maxTestRetries ∧
      (states = false → (f e).state = e.state)
  | .onStateChange .. => states = true
  | .emit .. => emits = true
  | _ => True

/-- An operation that keeps every state may also be one of a program that may change them. -/
theorem Op.Effect.of_keeps {emits : Bool} {o : Op} (h : o.Effect false emits) :
    o.Effect true emits := by
  cases o
  case store => exact fun e => ⟨(h e).1, (h e).2.1, (h e).2.2.1, (h e).2.2.2.1, nofun⟩
  case onStateChange => exact absurd h Bool.false_ne_true
  all_goals exact h

section Effects

variable {states emits : Bool} {p : Nat}

theorem effect_withLock {α : Type} {body : Prog α} (hb : body.Every (Op.Effect states emits)) :
    (withLock p body).Every (Op.Effect states emits) :=
  .bind (every_op trivial) fun _ => .bind hb fun _ => .bind (every_op trivial) fun _ => .pure _

theorem effect_checkState (st : SSNState) : (checkState p st).Every (Op.Effect states emits) :=
  .bind (every_op trivial) fun _ => .bind (.bind (every_op trivial) fun _ => .pure _) fun _ =>
    .bind (every_op trivial) fun _ => .pure _

/-- `MarkAllowed` and `MarkProhibited` write the `State`, and nothing else. -/
theorem effect_markState (st : SSNState) : (markState p st).Every (Op.Effect true emits) :=
  effect_withLock (every_op fun _ => ⟨rfl, rfl, rfl, rfl, nofun⟩)

theorem effect_getOrAddEntry (pc : UInt16) (ssn : UInt8) :
    (getOrAddEntry pc ssn).Every (Op.Effect states emits) :=
  .bind (every_op trivial) fun
    | some _ => .pure _
    | none => every_op trivial

theorem effect_scheduleSST : (scheduleSST p).Every (Op.Effect states emits) :=
  .bind (every_op trivial) fun _ => .bind (every_op trivial) fun _ =>
    every_op fun _ => ⟨rfl, rfl, rfl, rfl, fun _ => rfl⟩

theorem effect_sendSST (pc : UInt16) (ssn : UInt8) : (sendSST pc ssn).Every (Op.Effect states true) := by
  simp only [sendSST]
  split
  · exact .pure _
  · exact .bind (every_op rfl) fun _ => .pure _

end Effects

/-- The effects of each program: only `HandleUserInService`, `HandleUserOutOfService`, `HandleSSA`
and `HandleSSP` write a `State` or fire `OnStateChange`, only the timer callback hands an SST to
the transport, and no program changes what an entry is. -/
theorem effects_programs (cfg : Config) (p : Nat) (pc : UInt16) (ssn : UInt8) :
    (sstCallback cfg p).Every (Op.Effect false true) ∧
      (handleSST pc ssn).Every (Op.Effect false false) ∧
      (handleUserInService cfg pc ssn).Every (Op.Effect true false) ∧
      (handleUserOutOfService cfg pc ssn).Every (Op.Effect true false) ∧
      (handleSSA cfg pc ssn).Every (Op.Effect true false) ∧
      (handleSSP cfg pc ssn).Every (Op.Effect true false) := by
  refine ⟨?_, ?_, ?_, ?_, ?_, ?_⟩ <;>
  simp only [sstCallback, performSST, stopSST, startSST, handleSST, handleUserInService,
    handleUserOutOfService, handleSSA, handleSSP, isAllowed, isProhibited, markAllowed,
    markProhibited, Prog.pure_eq] <;>
  repeat' first
    | with_reducible first
      | refine Prog.Every.bind ?_ fun _ => ?_
      | refine Prog.Every.ite ?_ ?_
      | exact .pure _
      | exact effect_checkState _
      | exact effect_markState _
      | exact effect_getOrAddEntry _ _
      | exact effect_scheduleSST
      | exact effect_sendSST _ _
      | refine effect_withLock ?_
    | exact every_op trivial
    | exact every_op rfl
    | exact every_op fun _ => ⟨rfl, rfl, rfl, rfl, fun _ => rfl⟩
    | split

/-- No call hands an SST to the transport or changes what an entry is. -/
theorem Call.effect_prog (cfg : Config) : ∀ c : Call, (c.prog cfg).Every (Op.Effect true false)
  | .addEntry .. => .bind (every_op trivial) fun _ => .pure _
  | .handleUserInService pc ssn => (effects_programs cfg 0 pc ssn).2.2.1
  | .handleUserOutOfService pc ssn => (effects_programs cfg 0 pc ssn).2.2.2.1
  | .handleSSA pc ssn => (effects_programs cfg 0 pc ssn).2.2.2.2.1
  | .handleSSP pc ssn => (effects_programs cfg 0 pc ssn).2.2.2.2.2
  | .handleSST pc ssn => (effects_programs cfg 0 pc ssn).2.1.mono fun _ => Op.Effect.of_keeps
  | .processSCMGMessage scmg =>
    have h := effects_programs cfg 0 scmg.affectedPC scmg.affectedSSN
    .ite h.2.2.2.2.1 (.ite h.2.2.2.2.2 (.ite (h.2.1.mono fun _ => Op.Effect.of_keeps) (.pure _)))

end Sccp.Manager
