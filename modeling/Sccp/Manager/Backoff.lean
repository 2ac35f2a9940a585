import Sccp.Manager.Deadlock

/-!
# SSN state manager: the exponential backoff never happens

`performSST` counts a retry, doubles `TestInterval` up to `MaxTestInterval` and re-arms its
timer, but only past `IsAllowed`, where it waits on its own lock for good (`Deadlock`). Every
other write of an entry leaves `TestRetries` at 0, `TestInterval` at `DefaultTestInterval` and
`MaxTestRetries` alone, and `scheduleSST` arms its timer with the interval it reads. So in every
interleaving each entry keeps the retry count, interval and retry limit `AddEntry` gave it, and
every timer is armed with `DefaultTestInterval` (`backoff_never_applied`).

The argument is a rely-guarantee one, said once for any memory invariant. `Prog.Guarded res ok`
says a goroutine's code performs only operations `ok` allows, as long as each operation returned
a result `res` allows. If every allowed operation keeps the invariant and, from a memory in it,
returns a result `res` allows, and every call's program is guarded, the invariant holds in every
reachable state (`Rely.reachable`): a timer callback takes part only with its `Lock`.
-/
namespace Sccp.Manager

/-- A program performs only operations `ok` allows, along every path on which each operation
returned a result `res` allows. -/
inductive Prog.Guarded (res : (o : Op) → o.Ret → Prop) (ok : Op → Prop) {α : Type} :
    Prog α → Prop
  | pure (a : α) : Guarded res ok (.pure a)
  | op (o : Op) (next : o.Ret → Prog α) : ok o → (∀ r, res o r → Guarded res ok (next r)) →
      Guarded res ok (.op o next)

namespace Prog.Guarded

variable {res : (o : Op) → o.Ret → Prop} {ok : Op → Prop} {α β : Type}

theorem bind {x : Prog α} {f : α → Prog β} (hx : x.Guarded res ok)
    (hf : ∀ a, (f a).Guarded res ok) : (x >>= f).Guarded res ok := by
  induction hx with
  | pure a => exact hf a
  | op o next ho _ ih => exact .op o _ ho ih

/-- One operation, then code that may rely on the operation's result. -/
theorem op_bind {o : Op} {f : o.Ret → Prog β} (ho : ok o) (hf : ∀ r, res o r → (f r).Guarded res ok) :
    (Prog.op o Prog.pure >>= f).Guarded res ok :=
  .op o _ ho hf

theorem op_pure {o : Op} (ho : ok o) : (Prog.op o Prog.pure).Guarded res ok :=
  .op o _ ho fun r _ => .pure r

theorem ite {c : Prop} {d : Decidable c} {x y : Prog α} (hx : x.Guarded res ok)
    (hy : y.Guarded res ok) : (@ite _ c d x y).Guarded res ok := by
  cases d
  · exact hy
  · exact hx

end Prog.Guarded

/-- What each goroutine runs: guarded code, a timer callback that has not taken its lock yet, or
a callback that waits on itself. -/
def GuardedTasks (cfg : Config) (res : (o : Op) → o.Ret → Prop) (ok : Op → Prop) (s : Sys) :
    Prop :=
  ∀ j prog, s.tasks j = some prog →
    prog.Guarded res ok ∨ (∃ p, prog = sstCallback cfg p) ∨ ∃ p, s.SelfWaiting j p

/-- What a memory invariant `G` needs: it holds at the start; every allowed operation keeps it
and returns a result `res` allows; a timer firing keeps it; the callbacks' `Lock` is allowed;
and every call's program is guarded. -/
structure Rely (cfg : Config) (res : (o : Op) → o.Ret → Prop) (ok : Op → Prop)
    (G : World → Prop) : Prop where
  init : G World.init
  perform : ∀ w i o r, G w → ok o → w.perform cfg i o = some r → G r.1 ∧ res o r.2
  fire : ∀ w t tm j, G w → w.timers t = some tm → G (w.setTimer t { tm with status := .fired j })
  lock : ∀ p, ok (.lock p)
  call : ∀ c : Call, (c.prog cfg).Guarded res ok

section Rely

variable {cfg : Config} {res : (o : Op) → o.Ret → Prop} {ok : Op → Prop} {G : World → Prop}
  {s s' : Sys}

/-- A step that gives goroutine `k` new code leaves the others' code as it was; one that waits
on itself still does. -/
theorem GuardedTasks.of_update (hT : GuardedTasks cfg res ok s) {a : Action}
    (h : s.step cfg a = some s') {k : Nat} {prog' : Prog Reply}
    (hk : s'.tasks = Function.update s.tasks k (some prog'))
    (hnew : prog'.Guarded res ok ∨ (∃ p, prog' = sstCallback cfg p) ∨ ∃ p, s'.SelfWaiting k p) :
    GuardedTasks cfg res ok s' := by
  intro j prog hj
  rw [hk] at hj
  by_cases hjk : j = k
  · subst hjk
    rw [Function.update_same, Option.some.injEq] at hj
    exact hj ▸ hnew
  · rw [Function.update_noteq hjk] at hj
    rcases hT j prog hj with hg | hc | ⟨p, hp⟩
    · exact .inl hg
    · exact .inr (.inl hc)
    · exact .inr (.inr ⟨p, Sys.selfWaiting_step h hp⟩)

theorem Rely.step (hR : Rely cfg res ok G) (hn : NoSST cfg s) (hG : G s.world)
    (hT : GuardedTasks cfg res ok s) {a : Action} (h : s.step cfg a = some s') :
    G s'.world ∧ GuardedTasks cfg res ok s' := by
  cases a with
  | call c =>
    obtain rfl := Sys.step_call cfg h
    exact ⟨hG, hT.of_update h rfl (.inl (hR.call c))⟩
  | fire t =>
    obtain ⟨tm, htm, -, rfl⟩ := Sys.step_fire cfg h
    exact ⟨hR.fire _ _ _ _ hG htm, hT.of_update h rfl (.inr (.inl ⟨_, rfl⟩))⟩
  | exec i =>
    obtain ⟨o, next, r, hi, hr, rfl⟩ := Sys.step_exec cfg h
    rcases hT i _ hi with hg | ⟨p, hp⟩ | ⟨p, hreq, hw, -⟩
    · -- guarded code performs an allowed operation and gets a result it may rely on
      cases hg with
      | op _ _ ho hnext =>
        obtain ⟨hG', hres⟩ := hR.perform _ _ _ _ hG ho hr
        exact ⟨hG', hT.of_update h rfl (.inl (hnext _ hres))⟩
    · -- a timer callback takes its lock, and from then on waits on itself
      have hcb : s.tasks i = some (sstCallback cfg p) := hp ▸ hi
      obtain ⟨k, hk⟩ := sstCallback_eq cfg p
      rw [hk] at hp
      cases hp
      exact ⟨(hR.perform _ _ _ _ hG (hR.lock p) hr).1,
        hT.of_update h rfl (.inr (.inr ⟨p, hn.selfWaiting_of_sstCallback h hcb⟩))⟩
    · exact absurd rfl (Sys.step_ne_exec h hreq hw i rfl)

/-- The invariant holds in every reachable state, and every goroutine runs guarded code or a
timer callback that never gets past its `Lock`. -/
theorem Rely.reachable (hR : Rely cfg res ok G) (hr : Reachable cfg s) :
    G s.world ∧ GuardedTasks cfg res ok s := by
  induction hr with
  | refl => exact ⟨hR.init, fun _ _ h => by cases h⟩
  | tail hsb hstep ih =>
    obtain ⟨a, ha⟩ := hstep
    exact hR.step (reachable_noSST hsb) ih.1 ih.2 ha

end Rely

/-- An entry's test fields as `AddEntry` sets them: no retry counted, the default interval, the
manager's retry limit. -/
def SSNEntry.NoBackoff (cfg : Config) (e : SSNEntry) : Prop :=
  e.testRetries = 0 ∧ e.testInterval = cfg.defaultTestInterval ∧
    e.maxTestRetries = cfg.maxTestRetries

/-- No entry has backed off, and every timer was armed with the default interval. -/
structure World.NoBackoff (cfg : Config) (w : World) : Prop where
  entries : ∀ p e, w.entries p = some e → e.NoBackoff cfg
  timers : ∀ t tm, w.timers t = some tm → tm.interval = cfg.defaultTestInterval

/-- A loaded entry has not backed off. -/
def noBackoffRes (cfg : Config) : (o : Op) → o.Ret → Prop
  | .load _, e => SSNEntry.NoBackoff cfg e
  | _, _ => True

/-- Writes that keep an entry from backing off, and timers armed with the default interval. -/
def noBackoffOk (cfg : Config) : Op → Prop
  | .store _ f => ∀ e, e.NoBackoff cfg → (f e).NoBackoff cfg
  | .afterFunc d _ => d = cfg.defaultTestInterval
  | _ => True

section NoBackoff

variable {cfg : Config} {w : World}

/-- A memory with the same entries and the same timer intervals has not backed off either. -/
theorem World.NoBackoff.of_eq (hw : w.NoBackoff cfg) {w' : World} (he : w'.entries = w.entries)
    (ht : ∀ t tm, w'.timers t = some tm → ∃ tm₀, w.timers t = some tm₀ ∧ tm.interval = tm₀.interval) :
    w'.NoBackoff cfg :=
  ⟨fun p e h => hw.entries p e (he ▸ h), fun t tm h =>
    let ⟨_, h₀, hi⟩ := ht t tm h
    hi.trans (hw.timers _ _ h₀)⟩

theorem World.NoBackoff.setTimer (hw : w.NoBackoff cfg) {t : Nat} {tm : Timer}
    (htm : w.timers t = some tm) (st : TimerStatus) :
    (w.setTimer t { tm with status := st }).NoBackoff cfg :=
  hw.of_eq rfl fun t' tm' h => by
    simp only [World.setTimer_timers, Function.update_apply] at h
    split_ifs at h with ht
    · cases h; exact ⟨tm, ht ▸ htm, rfl⟩
    · exact ⟨tm', h, rfl⟩

theorem World.NoBackoff.setMutex (hw : w.NoBackoff cfg) (p : Nat) (m : RWMutex) :
    (w.setMutex p m).NoBackoff cfg :=
  hw.of_eq rfl fun _ tm h => ⟨tm, h, rfl⟩

/-- Every operation the handlers may perform keeps the entries from backing off, and a load
returns an entry that has not. -/
theorem perform_noBackoff (hw : w.NoBackoff cfg) {i : Nat} {o : Op} (ho : noBackoffOk cfg o)
    {r : World × o.Ret} (h : w.perform cfg i o = some r) :
    r.1.NoBackoff cfg ∧ noBackoffRes cfg o r.2 := by
  cases o with
  | addEntry key l =>
    cases h
    refine ⟨⟨fun p e he => ?_, hw.timers⟩, trivial⟩
    simp only [World.addEntry_entries, Function.update_apply] at he
    split_ifs at he
    · cases he; exact ⟨rfl, rfl, rfl⟩
    · exact hw.entries p e he
  | load p =>
    obtain ⟨e, he, rfl⟩ := Option.map_eq_some'.mp h
    exact ⟨hw, hw.entries p e he⟩
  | store p f =>
    obtain ⟨_, -, rfl⟩ := Option.map_eq_some'.mp h
    refine ⟨⟨fun q e he => ?_, hw.timers⟩, trivial⟩
    simp only [World.modifyEntry_entries, Function.update_apply] at he
    split_ifs at he with hq
    · subst hq
      obtain ⟨e₀, he₀, rfl⟩ := Option.map_eq_some'.mp he
      exact ho e₀ (hw.entries _ _ he₀)
    · exact hw.entries q e he
  | stopTimer _ =>
    rcases w.stopTimer_eq_some h with h | ⟨tm, htm, h⟩ <;> rw [h]
    · exact ⟨hw, trivial⟩
    · exact ⟨hw.setTimer htm _, trivial⟩
  | afterFunc d p =>
    cases h
    refine ⟨⟨hw.entries, fun t tm ht => ?_⟩, trivial⟩
    simp only [World.afterFunc_timers, Function.update_apply] at ht
    split_ifs at ht
    · cases ht; exact ho
    · exact hw.timers t tm ht
  | rLock p | rUnlock p | lock p | unlock p =>
    simp only [World.perform] at h
    split_ifs at h
    cases h
    exact ⟨hw.setMutex _ _, trivial⟩
  | getEntry | onStateChange | onBroadcast | emit =>
    cases h
    exact ⟨hw.of_eq rfl fun t tm h => ⟨tm, h, rfl⟩, trivial⟩

end NoBackoff

/-- Code that keeps every entry from backing off, relying on the entries it loads. -/
abbrev BackoffFree {α : Type} (cfg : Config) (x : Prog α) : Prop :=
  x.Guarded (noBackoffRes cfg) (noBackoffOk cfg)

section Programs

variable {cfg : Config} {p : Nat} {α : Type}

theorem backoffFree_withLock {body : Prog α} (hb : BackoffFree cfg body) :
    BackoffFree cfg (withLock p body) :=
  .bind (.op_pure trivial) fun _ => .bind hb fun _ => .bind (.op_pure trivial) fun _ => .pure _

theorem backoffFree_withRLock {body : Prog α} (hb : BackoffFree cfg body) :
    BackoffFree cfg (withRLock p body) :=
  .bind (.op_pure trivial) fun _ => .bind hb fun _ => .bind (.op_pure trivial) fun _ => .pure _

theorem backoffFree_checkState (st : SSNState) : BackoffFree cfg (checkState p st) :=
  backoffFree_withRLock (.bind (.op_pure trivial) fun _ => .pure _)

theorem backoffFree_markState (st : SSNState) : BackoffFree cfg (markState p st) :=
  backoffFree_withLock (.op_pure fun _ h => h)

theorem backoffFree_getOrAddEntry (pc : UInt16) (ssn : UInt8) :
    BackoffFree cfg (getOrAddEntry pc ssn) :=
  .bind (.op_pure trivial) fun
    | some _ => .pure _
    | none => .op_pure trivial

/-- `scheduleSST` arms its timer with the interval it reads, which is the default one. -/
theorem backoffFree_scheduleSST : BackoffFree cfg (scheduleSST p) :=
  .op_bind trivial fun _ he => .op_bind he.2.1 fun _ _ => .op_pure fun _ h => h

theorem backoffFree_handlers (pc : UInt16) (ssn : UInt8) :
    BackoffFree cfg (handleUserInService cfg pc ssn) ∧
      BackoffFree cfg (handleUserOutOfService cfg pc ssn) ∧ BackoffFree cfg (handleSSA cfg pc ssn) ∧
      BackoffFree cfg (handleSSP cfg pc ssn) ∧ BackoffFree cfg (handleSST pc ssn) := by
  refine ⟨?_, ?_, ?_, ?_, ?_⟩ <;>
  simp only [Manager.handleSSA, Manager.handleSSP, Manager.handleSST, Manager.handleUserInService,
    Manager.handleUserOutOfService, isAllowed, isProhibited, markAllowed, markProhibited, stopSST,
    startSST, Prog.pure_eq] <;>
  repeat' first
    | with_reducible first
      | refine Prog.Guarded.bind ?_ fun _ => ?_
      | refine Prog.Guarded.ite ?_ ?_
      | exact backoffFree_checkState _
      | exact backoffFree_markState _
      | exact backoffFree_getOrAddEntry _ _
      | exact backoffFree_scheduleSST
      | exact .pure _
      | refine backoffFree_withLock ?_
    | exact .op_pure trivial
    | exact .op_pure fun _ h => h
    | exact .op_pure fun _ h => ⟨rfl, h.2⟩
    | exact .op_pure fun _ h => ⟨rfl, rfl, h.2.2⟩
    | split

theorem Call.backoffFree_prog (cfg : Config) : ∀ c : Call, BackoffFree cfg (c.prog cfg)
  | .addEntry .. => .bind (.op_pure trivial) fun _ => .pure _
  | .handleUserInService pc ssn => (backoffFree_handlers pc ssn).1
  | .handleUserOutOfService pc ssn => (backoffFree_handlers pc ssn).2.1
  | .handleSSA pc ssn => (backoffFree_handlers pc ssn).2.2.1
  | .handleSSP pc ssn => (backoffFree_handlers pc ssn).2.2.2.1
  | .handleSST pc ssn => (backoffFree_handlers pc ssn).2.2.2.2
  | .processSCMGMessage scmg =>
    have h := @backoffFree_handlers cfg scmg.affectedPC scmg.affectedSSN
    .ite h.2.2.1 (.ite h.2.2.2.1 (.ite h.2.2.2.2 (.pure _)))

end Programs

theorem rely_noBackoff (cfg : Config) :
    Rely cfg (noBackoffRes cfg) (noBackoffOk cfg) (World.NoBackoff cfg) where
  init := ⟨fun _ _ h => (nomatch h), fun _ _ h => nomatch h⟩
  perform _ _ _ _ hw ho h := perform_noBackoff hw ho h
  fire _ _ _ _ hw htm := hw.setTimer htm _
  lock _ := trivial
  call := Call.backoffFree_prog cfg

/-- In every interleaving, no entry ever counts a retry or backs off: each keeps
`TestRetries = 0`, `TestInterval = DefaultTestInterval` and the `MaxTestRetries` of `AddEntry`,
and every timer is armed with `DefaultTestInterval`. -/
theorem backoff_never_applied {cfg : Config} {s : Sys} (hr : Reachable cfg s) :
    (∀ p e, s.world.entries p = some e → e.testRetries = 0 ∧
      e.testInterval = cfg.defaultTestInterval ∧ e.maxTestRetries = cfg.maxTestRetries) ∧
    ∀ t tm, s.world.timers t = some tm → tm.interval = cfg.defaultTestInterval :=
  have h := ((rely_noBackoff cfg).reachable hr).1
  ⟨h.entries, h.timers⟩

/-- After SSA and SSP for `(10, 7)`, the first timer firing and a second SSA, entry 0 and its
timer are as `AddEntry` and `startSST` set them. -/
theorem backoff_never_applied_deadlockRun :
    ∃ s, seqRun Config.default deadlockRun Sys.init = some s ∧ (s.world.entries 0).isSome ∧
      (s.world.timers 0).isSome ∧
      (∀ p e, s.world.entries p = some e → e.testRetries = 0 ∧
        e.testInterval = Config.default.defaultTestInterval ∧
        e.maxTestRetries = Config.default.maxTestRetries) ∧
      ∀ t tm, s.world.timers t = some tm → tm.interval = Config.default.defaultTestInterval := by
  obtain ⟨s, hs⟩ := Option.isSome_iff_exists.mp
    (show (seqRun Config.default deadlockRun Sys.init).isSome by decide)
  have he : (s.world.entries 0).isSome ∧ (s.world.timers 0).isSome := by
    have h : (seqRun Config.default deadlockRun Sys.init).map
        (fun s => (s.world.entries 0).isSome && (s.world.timers 0).isSome) = some true := by decide
    simpa [hs] using h
  obtain ⟨hentries, htimers⟩ := backoff_never_applied (seqRun_steps _ _ _ _ hs)
  exact ⟨s, hs, he.1, he.2, hentries, htimers⟩

end Sccp.Manager
