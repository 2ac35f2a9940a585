import Sccp.Scmg

/-!
# SSN state manager: entries and goroutine programs

`SSNStateManager` keeps one `SSNEntry` per `(PointCode, SSN)` and drives it from handler calls
and from `time.AfterFunc` callbacks, which Go runs on goroutines of their own. A handler is
therefore not one state transition: it is a sequence of steps (a lookup under the manager lock,
each `RLock`/`Lock` of the entry's `sync.RWMutex`, each field read or write, each callback), and
steps of different goroutines interleave.

A goroutine's code is a `Prog`: a free monad over the operations `Op` that another goroutine can
observe. Handlers are written with `do` in the order of the Go source, so that each can be read
against it line by line; their meaning is given by the step semantics of `Sccp.Manager.Step`.

`GetEntry` and `AddEntry` hold the manager's `sync.RWMutex` only around one map access and take
no other lock inside, so each is one step. Calls to `logf`, `LastStateChange` and `time.Now()` are
not modelled: nothing in the package reads them.
-/
namespace Sccp.Manager

/-- `SSNState`: `SSNStateProhibited = 0`, `SSNStateAllowed = 1`. -/
inductive SSNState where
  | prohibited
  | allowed
  deriving DecidableEq, Repr

/-- `StateChangeReason`. -/
inductive StateChangeReason where
  | userInitiated
  | networkInitiated
  | testTimeout
  | testResponse
  deriving DecidableEq, Repr

/-- `BroadcastType`. -/
inductive BroadcastType where
  | ssa
  | ssp
  deriving DecidableEq, Repr

/-- The key of `SSNStateManager.entries`. The source formats it as `"%d:%d"`, which is injective
on `(pc, ssn)`, so the pair itself stands for the string. -/
abbrev Key := UInt16 × UInt8

def getKey (pc : UInt16) (ssn : UInt8) : Key := (pc, ssn)

/-- One second of `time.Duration`, an `int64` count of nanoseconds. -/
def second : Int := 1000000000

/-- `time.Duration` and `int` are 64-bit two's complement: arithmetic on them wraps. -/
def wrapInt64 (x : Int) : Int := x.bmod (2 ^ 64)

/-- The configuration fields of `SSNStateManager`; a callback is `true` when it is not nil. -/
structure Config where
  defaultTestInterval : Int
  maxTestInterval : Int
  maxTestRetries : Int
  onStateChange : Bool
  onBroadcast : Bool
  deriving DecidableEq, Repr

/-- The configuration `NewSSNStateManager` sets: 30 s, 300 s, five retries, no callbacks. -/
def Config.default : Config :=
  ⟨30 * second, 300 * second, 5, false, false⟩

/-- `SSNEntry` without its `mutex`, which the step semantics keeps beside the entry, and without
`LastStateChange`. `testTimer` is the `*time.Timer`, as an index into the runtime's timers. -/
structure SSNEntry where
  ssn : UInt8
  pointCode : UInt16
  state : SSNState
  isLocal : Bool
  testTimer : Option Nat
  testInterval : Int
  testRetries : Int
  maxTestRetries : Int
  deriving DecidableEq, Repr

/-- The entry `AddEntry` builds: Prohibited, no timer, the manager's interval and retry limit. -/
def SSNEntry.new (cfg : Config) (pc : UInt16) (ssn : UInt8) (isLocal : Bool) : SSNEntry :=
  ⟨ssn, pc, .prohibited, isLocal, none, cfg.defaultTestInterval, 0, cfg.maxTestRetries⟩

/-- The errors the handlers return. -/
inductive ManagerError where
  /-- `"SSN entry not found: PC=%d, SSN=%d"`. -/
  | entryNotFound (pc : UInt16) (ssn : UInt8)
  /-- `"cannot change state of remote subsystem"`. -/
  | remoteSubsystem
  /-- `"failed to marshal SSA response: %w"`. -/
  | marshalSSAResponse (err : CodecError)
  /-- `"failed to marshal SST: %w"`. -/
  | marshalSST (err : CodecError)
  deriving DecidableEq, Repr

/-- What a handler call returns: its `error`, `nil` being `.ok ()`. -/
abbrev Reply := Except ManagerError Unit

/-- The steps of a goroutine that other goroutines can observe. An entry or a timer is named by
its index in the runtime's heap. -/
inductive Op where
  /-- `GetEntry`: the map lookup under `sm.mutex.RLock`. -/
  | getEntry (key : Key)
  /-- `AddEntry`: building the entry and storing it under `sm.mutex.Lock`. -/
  | addEntry (key : Key) (isLocal : Bool)
  | rLock (entry : Nat)
  | rUnlock (entry : Nat)
  | lock (entry : Nat)
  | unlock (entry : Nat)
  /-- A read of the entry's fields. -/
  | load (entry : Nat)
  /-- A write of the entry's fields. -/
  | store (entry : Nat) (f : SSNEntry → SSNEntry)
  /-- `Timer.Stop`, which reports whether it stopped a timer that had not fired. -/
  | stopTimer (timer : Nat)
  /-- `time.AfterFunc(d, func() { sm.performSST(entry) })`. -/
  | afterFunc (d : Int) (entry : Nat)
  /-- A call of `sm.OnStateChange(entry, st, reason)`. -/
  | onStateChange (entry : Nat) (st : SSNState) (reason : StateChangeReason)
  /-- A call of `sm.OnBroadcast(b, entry)`. -/
  | onBroadcast (b : BroadcastType) (entry : Nat)
  /-- `sendSST` handing the marshalled SST for `key` to the transport. -/
  | emit (key : Key) (bytes : List UInt8)

/-- The value an operation returns to the goroutine. -/
def Op.Ret : Op → Type
  | .getEntry _ => Option Nat
  | .addEntry _ _ => Nat
  | .load _ => SSNEntry
  | .stopTimer _ => Bool
  | .afterFunc _ _ => Nat
  | _ => Unit

/-- A goroutine's code: done with a value, or one operation and what follows from its result. -/
inductive Prog (α : Type) : Type where
  | pure (a : α)
  | op (o : Op) (next : o.Ret → Prog α)

namespace Prog

def bind {α β : Type} : Prog α → (α → Prog β) → Prog β
  | .pure a, f => f a
  | .op o next, f => .op o fun r => (next r).bind f

instance : Monad Prog where
  pure := .pure
  bind := Prog.bind

theorem pure_bind_eq {α β : Type} (a : α) (f : α → Prog β) : (Prog.pure a >>= f) = f a := rfl

theorem op_bind {α β : Type} (o : Op) (next : o.Ret → Prog α) (f : α → Prog β) :
    (Prog.op o next >>= f) = .op o fun r => next r >>= f := rfl

@[simp] theorem pure_bind {α β : Type} (a : α) (f : α → Prog β) : (Prog.pure a).bind f = f a := rfl

@[simp] theorem bind_assoc {α β γ : Type} (x : Prog α) (f : α → Prog β) (g : β → Prog γ) :
    (x.bind f).bind g = x.bind fun a => (f a).bind g := by
  induction x with
  | pure a => rfl
  | op o next ih => exact congrArg (Prog.op o) (funext ih)

/-- The instance's `bind` and `pure`, as the constructors and `Prog.bind`. -/
@[simp] theorem bind_eq {α β : Type} (x : Prog α) (f : α → Prog β) : (x >>= f) = x.bind f := rfl

@[simp] theorem pure_eq {α : Type} (a : α) : (Pure.pure a : Prog α) = Prog.pure a := rfl

/-- Every operation the program can perform, whatever the results it receives, satisfies `ok`. -/
inductive Every (ok : Op → Prop) {α : Type} : Prog α → Prop
  | pure (a : α) : Every ok (.pure a)
  | op (o : Op) (next : o.Ret → Prog α) : ok o → (∀ r, Every ok (next r)) → Every ok (.op o next)

theorem Every.bind {ok : Op → Prop} {α β : Type} {x : Prog α} {f : α → Prog β}
    (hx : Every ok x) (hf : ∀ a, Every ok (f a)) : Every ok (x >>= f) := by
  induction hx with
  | pure a => exact hf a
  | op o next ho _ ih => exact .op o _ ho ih

theorem Every.ite {ok : Op → Prop} {α : Type} {c : Prop} [Decidable c] {x y : Prog α}
    (hx : Every ok x) (hy : Every ok y) : Every ok (if c then x else y) := by
  split <;> assumption

theorem Every.of_op {ok : Op → Prop} {α : Type} {o : Op} {next : o.Ret → Prog α}
    (h : Every ok (.op o next)) : ok o ∧ ∀ r, Every ok (next r) := by
  cases h with
  | op _ _ ho hn => exact ⟨ho, hn⟩

theorem Every.mono {ok ok' : Op → Prop} (h : ∀ o, ok o → ok' o) {α : Type} {x : Prog α}
    (hx : Every ok x) : Every ok' x := by
  induction hx with
  | pure a => exact .pure a
  | op o next ho _ ih => exact .op o next (h o ho) ih

end Prog

def getEntry (pc : UInt16) (ssn : UInt8) : Prog (Option Nat) := .op (.getEntry (getKey pc ssn)) .pure
def addEntry (pc : UInt16) (ssn : UInt8) (isLocal : Bool) : Prog Nat :=
  .op (.addEntry (getKey pc ssn) isLocal) .pure
def rLock (entry : Nat) : Prog Unit := .op (.rLock entry) .pure
def rUnlock (entry : Nat) : Prog Unit := .op (.rUnlock entry) .pure
def lock (entry : Nat) : Prog Unit := .op (.lock entry) .pure
def unlock (entry : Nat) : Prog Unit := .op (.unlock entry) .pure
def load (entry : Nat) : Prog SSNEntry := .op (.load entry) .pure
def store (entry : Nat) (f : SSNEntry → SSNEntry) : Prog Unit := .op (.store entry f) .pure
def stopTimer (timer : Nat) : Prog Bool := .op (.stopTimer timer) .pure
def afterFunc (d : Int) (entry : Nat) : Prog Nat := .op (.afterFunc d entry) .pure
def onStateChange (entry : Nat) (st : SSNState) (reason : StateChangeReason) : Prog Unit :=
  .op (.onStateChange entry st reason) .pure
def onBroadcast (b : BroadcastType) (entry : Nat) : Prog Unit := .op (.onBroadcast b entry) .pure
def emit (key : Key) (bytes : List UInt8) : Prog Unit := .op (.emit key bytes) .pure

section Every

variable {ok : Op → Prop}

theorem every_op {o : Op} (h : ok o) : Prog.Every ok (.op o Prog.pure) :=
  .op o _ h fun r => .pure r

end Every

end Sccp.Manager
