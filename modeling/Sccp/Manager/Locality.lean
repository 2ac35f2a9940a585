import Sccp.Manager.Entries

/-!
# SSN state manager: tests are for remote subsystems, announcements for local ones

`startSST` returns at once for a local entry, and the callback of a timer reschedules only the
entry the timer was armed for. `HandleUserInService` and `HandleUserOutOfService` return an error
for a remote entry before they notify or broadcast. An entry's `IsLocal` never changes
(`entry_identity_stable`), so what a goroutine has read of it stays true.

`Prog.Respects` says that a goroutine's code arms a timer, or sets an entry's `TestTimer`, only
for an entry it has read is remote, and calls `OnBroadcast`, or `OnStateChange` for a user request,
only for an entry it has read is local, whatever its operations return. That holds of every
goroutine in every interleaving, and so of memory: every timer is for a remote entry and no local
entry has a `TestTimer` (`tests_only_for_remote`), and every broadcast and every user-initiated
notification is for a local entry (`announcements_only_for_local`).
-/
namespace Sccp.Manager

/-- Entry `p` is allocated, and local when `b`, remote when not. -/
def World.Locality (w : World) (p : Nat) (b : Bool) : Prop :=
  ∃ e, w.entries p = some e ∧ e.isLocal = b

/-- Entry `p` is allocated and remote. -/
def World.Remote (w : World) (p : Nat) : Prop := w.Locality p false

/-- An operation respects the locality known in `K`: it arms a timer for an entry known remote,
a write sets the `TestTimer` of one or keeps or clears it, and `OnBroadcast`, and `OnStateChange`
for a user request, are for an entry known local. -/
def Op.Respects (K : Nat → Bool → Prop) : Op → Prop
  | .afterFunc _ p => K p false
  | .store p f => K p false ∨ ∀ e t, (f e).testTimer = some t → e.testTimer = some t
  | .onStateChange p _ reason => reason = .userInitiated → K p true
  | .onBroadcast _ p => K p true
  | _ => True

/-- What an operation's result tells of locality: the `IsLocal` of an entry read. -/
def Op.Reveals (K : Nat → Bool → Prop) : (o : Op) → o.Ret → Prop
  | .load p, e => K p e.isLocal
  | _, _ => True

theorem Op.Respects.mono {K K' : Nat → Bool → Prop} (hK : ∀ p b, K p b → K' p b) {o : Op}
    (h : o.Respects K) : o.Respects K' := by
  cases o with
  | afterFunc _ p => exact hK p false h
  | store p _ => exact h.imp_left (hK p false)
  | onStateChange p _ _ => exact fun hr => hK p true (h hr)
  | onBroadcast _ p => exact hK p true h
  | _ => trivial

/-- A goroutine's remaining code, started knowing the locality of the entries in `K`: each
operation respects what is known when it is performed, whatever the operations before it
return. -/
inductive Prog.Respects {α : Type} : (Nat → Bool → Prop) → Prog α → Prop
  | pure (K : Nat → Bool → Prop) (a : α) : Respects K (.pure a)
  | op (K : Nat → Bool → Prop) (o : Op) (next : o.Ret → Prog α) : o.Respects K →
      (∀ r (K' : Nat → Bool → Prop), (∀ p b, K p b → K' p b) → o.Reveals K' r →
        Respects K' (next r)) →
      Respects K (.op o next)

namespace Prog.Respects

variable {α β : Type} {K K' : Nat → Bool → Prop}

/-- Knowing more keeps the code respecting what is known. -/
theorem mono {x : Prog α} (hx : x.Respects K) (hK : ∀ p b, K p b → K' p b) : x.Respects K' := by
  cases hx with
  | pure => exact .pure _ _
  | op _ o next ho hn =>
    exact .op _ o next (ho.mono hK) fun r K'' h hr =>
      hn r K'' (fun p b hp => h p b (hK p b hp)) hr

theorem bind {x : Prog α} {f : α → Prog β} (hx : x.Respects K)
    (hf : ∀ a K', (∀ p b, K p b → K' p b) → (f a).Respects K') : (x >>= f).Respects K := by
  induction hx with
  | pure K a => exact hf a K fun _ _ => id
  | op K o next ho _ ih =>
    exact .op K o _ ho fun r K' h hr =>
      ih r K' h hr fun a K'' h' => hf a K'' fun p b hp => h' p b (h p b hp)

/-- Code followed by code that needs no more than what was known before it. -/
theorem bind_keep {x : Prog α} {f : α → Prog β} (hx : x.Respects K)
    (hf : ∀ a, (f a).Respects K) : (x >>= f).Respects K :=
  hx.bind fun a _ h => (hf a).mono h

theorem ite {c : Prop} {d : Decidable c} {x y : Prog α} (hx : x.Respects K)
    (hy : y.Respects K) : (@ite _ c d x y).Respects K := by
  cases d
  · exact hy
  · exact hx

/-- A read of an entry, after which its locality is known. -/
theorem load_bind {p : Nat} {f : SSNEntry → Prog β}
    (hf : ∀ e K', (∀ q b, K q b → K' q b) → K' p e.isLocal → (f e).Respects K') :
    (load p >>= f).Respects K :=
  .op K (.load p) _ trivial hf

/-- `if !entry.IsLocal { return ... }` right after the entry is read: what follows knows the entry
local. -/
theorem load_unlessRemote {p : Nat} {x y : Prog β} (hx : x.Respects K)
    (hy : ∀ K', (∀ q b, K q b → K' q b) → K' p true → y.Respects K') :
    (load p >>= fun e => if (!e.isLocal) = true then x else y).Respects K :=
  load_bind fun e K' hK he => by
    split
    · exact hx.mono hK
    · next hl =>
      have hl : e.isLocal = true := by simpa using hl
      exact hy K' hK (hl ▸ he)

end Prog.Respects

section Programs

variable {K : Nat → Bool → Prop} {p : Nat}

theorem respects_op {o : Op} (ho : o.Respects K) : (Prog.op o Prog.pure).Respects K :=
  .op K o _ ho fun _ _ _ _ => .pure _ _

theorem respects_load : (load p).Respects K := respects_op trivial

/-- A write that leaves the entry's `TestTimer` alone. -/
theorem respects_store {f : SSNEntry → SSNEntry} (hf : ∀ e, (f e).testTimer = e.testTimer) :
    (store p f).Respects K :=
  respects_op (.inr fun e _ h => (hf e).symm.trans h)

theorem respects_notifyNetwork (st : SSNState) :
    (onStateChange p st .networkInitiated).Respects K :=
  respects_op nofun

theorem respects_notifyUser (st : SSNState) (hp : K p true) :
    (onStateChange p st .userInitiated).Respects K :=
  respects_op fun _ => hp

theorem respects_onBroadcast (b : BroadcastType) (hp : K p true) : (onBroadcast b p).Respects K :=
  respects_op hp

theorem respects_withLock {α : Type} {body : Prog α} (hb : body.Respects K) :
    (withLock p body).Respects K :=
  (respects_op (o := .lock p) trivial).bind_keep fun _ => hb.bind_keep fun _ =>
    (respects_op (o := .unlock p) trivial).bind_keep fun _ => .pure _ _

theorem respects_checkState (st : SSNState) : (checkState p st).Respects K :=
  (respects_op (o := .rLock p) trivial).bind_keep fun _ =>
    (respects_load.bind_keep fun _ => .pure _ _).bind_keep fun _ =>
      (respects_op (o := .rUnlock p) trivial).bind_keep fun _ => .pure _ _

theorem respects_markState (st : SSNState) : (markState p st).Respects K :=
  respects_withLock (respects_store fun _ => rfl)

theorem respects_getEntry (pc : UInt16) (ssn : UInt8) : (getEntry pc ssn).Respects K :=
  respects_op trivial

theorem respects_getOrAddEntry (pc : UInt16) (ssn : UInt8) : (getOrAddEntry pc ssn).Respects K :=
  (respects_getEntry pc ssn).bind_keep fun
    | some _ => .pure _ _
    | none => respects_op (o := .addEntry _ _) trivial

theorem respects_sendSST (pc : UInt16) (ssn : UInt8) : (sendSST pc ssn).Respects K := by
  simp only [sendSST]
  split
  · exact .pure _ _
  · exact (respects_op (o := .emit _ _) trivial).bind_keep fun _ => .pure _ _

/-- `scheduleSST` arms a timer for the entry and stores it there: both need the entry known
remote. -/
theorem respects_scheduleSST (hp : K p false) : (scheduleSST p).Respects K :=
  respects_load.bind_keep fun _ => (respects_op (o := .afterFunc _ p) hp).bind_keep fun _ =>
    respects_op (o := .store p _) (.inl hp)

/-- `stopSST` clears the `TestTimer`. -/
theorem respects_stopSST : (stopSST p).Respects K := by
  refine respects_withLock (respects_load.bind_keep fun e => ?_)
  simp only [Prog.pure_eq]
  split
  · exact (respects_op (o := .stopTimer _) trivial).bind_keep fun _ =>
      (respects_op (o := .store p _) (.inr fun _ _ h => by cases h)).bind_keep fun _ =>
        respects_store fun _ => rfl
  · exact respects_store fun _ => rfl

/-- `startSST` goes on only for an entry it has read is remote. -/
theorem respects_startSST (cfg : Config) : (startSST cfg p).Respects K := by
  refine Prog.Respects.load_bind fun e K' _ he => ?_
  split
  · exact .pure _ _
  · next hl =>
    have hp : K' p false := Bool.eq_false_iff.mpr hl ▸ he
    refine respects_withLock (respects_load.bind_keep fun e => ?_)
    have hs : ((store p fun e => { e with testInterval := cfg.defaultTestInterval, testRetries := 0 })
        >>= fun _ => scheduleSST p).Respects K' := by
      refine Prog.Respects.bind_keep ?_ fun _ => respects_scheduleSST hp
      exact respects_store fun _ => rfl
    split
    · exact (respects_op (o := .stopTimer _) trivial).bind_keep fun _ => hs
    · exact hs

end Programs

/-- The timer callback, for an entry known remote, and every handler respect the locality they
know. -/
theorem respects_programs {K : Nat → Bool → Prop} (cfg : Config) (pc : UInt16) (ssn : UInt8) :
    (∀ p, K p false → (sstCallback cfg p).Respects K) ∧
      (handleUserInService cfg pc ssn).Respects K ∧
      (handleUserOutOfService cfg pc ssn).Respects K ∧ (handleSSA cfg pc ssn).Respects K ∧
      (handleSSP cfg pc ssn).Respects K ∧ (handleSST pc ssn).Respects K := by
  refine ⟨fun p hp => ?_, ?_, ?_, ?_, ?_, ?_⟩ <;>
  simp only [sstCallback, performSST, Manager.handleSSA, Manager.handleSSP, Manager.handleSST,
    Manager.handleUserInService, Manager.handleUserOutOfService, isAllowed, isProhibited,
    markAllowed, markProhibited, Prog.pure_eq] <;>
  repeat' first
    | intro _
    | with_reducible first
      | exact .pure _ _
      | apply Prog.Respects.load_unlessRemote
      | apply Prog.Respects.bind_keep
      | apply Prog.Respects.ite
      | exact respects_load
      | apply respects_store
      | exact respects_notifyNetwork _
      | apply respects_notifyUser
      | apply respects_onBroadcast
      | exact respects_checkState _
      | exact respects_markState _
      | exact respects_getOrAddEntry _ _
      | exact respects_getEntry _ _
      | exact respects_sendSST _ _
      | exact respects_stopSST
      | exact respects_startSST cfg
      | apply respects_withLock
      | apply respects_scheduleSST
    | split
    | rfl
    | assumption

/-- Every call into the API respects locality, knowing none. -/
theorem Call.respects_prog {K : Nat → Bool → Prop} (cfg : Config) :
    ∀ c : Call, (c.prog cfg).Respects K
  | .addEntry .. => (respects_op (o := .addEntry _ _) trivial).bind_keep fun _ => .pure _ _
  | .handleUserInService pc ssn => (respects_programs cfg pc ssn).2.1
  | .handleUserOutOfService pc ssn => (respects_programs cfg pc ssn).2.2.1
  | .handleSSA pc ssn => (respects_programs cfg pc ssn).2.2.2.1
  | .handleSSP pc ssn => (respects_programs cfg pc ssn).2.2.2.2.1
  | .handleSST pc ssn => (respects_programs cfg pc ssn).2.2.2.2.2
  | .processSCMGMessage scmg =>
    have h := respects_programs (K := K) cfg scmg.affectedPC scmg.affectedSSN
    .ite h.2.2.2.1 (.ite h.2.2.2.2.1 (.ite h.2.2.2.2.2 (.pure _ _)))

section Perform

variable {cfg : Config} {w : World} {j : Nat} {o : Op} {r : World × o.Ret}

/-- What an operation reads of an entry stays true after it, when every entry keeps its
locality. -/
theorem perform_reveals (h : w.perform cfg j o = some r)
    (hR : ∀ p b, w.Locality p b → r.1.Locality p b) : o.Reveals r.1.Locality r.2 := by
  cases o with
  | load p =>
    obtain ⟨e, he, rfl⟩ := Option.map_eq_some'.mp h
    exact hR p _ ⟨e, he, rfl⟩
  | _ => trivial

/-- A timer after an operation was there before it, for the same entry, or the operation armed
it. -/
theorem perform_timer_cases (h : w.perform cfg j o = some r) {t : Nat} {tm : Timer}
    (ht : r.1.timers t = some tm) :
    (∃ tm', w.timers t = some tm' ∧ tm'.entry = tm.entry) ∨ ∃ d, o = .afterFunc d tm.entry := by
  cases o with
  | stopTimer t' =>
    rcases w.stopTimer_eq_some h with h | ⟨tm', htm, h⟩ <;> rw [h] at ht
    · exact .inl ⟨tm, ht, rfl⟩
    · simp only [World.setTimer_timers, Function.update_apply] at ht
      split_ifs at ht with he
      · cases ht; exact .inl ⟨tm', he ▸ htm, rfl⟩
      · exact .inl ⟨tm, ht, rfl⟩
  | afterFunc d q =>
    cases h
    simp only [World.afterFunc_timers, Function.update_apply] at ht
    split_ifs at ht
    · cases ht; exact .inr ⟨d, rfl⟩
    · exact .inl ⟨tm, ht, rfl⟩
  | load p | store p _ => obtain ⟨_, -, rfl⟩ := Option.map_eq_some'.mp h; exact .inl ⟨tm, ht, rfl⟩
  | rLock p | rUnlock p | lock p | unlock p =>
    simp only [World.perform] at h; split_ifs at h; cases h; exact .inl ⟨tm, ht, rfl⟩
  | _ => cases h; exact .inl ⟨tm, ht, rfl⟩

/-- An operation that respects locality and keeps what each entry is leaves every `TestTimer` on
a remote entry. -/
theorem perform_testTimer (h : w.perform cfg j o = some r) (ho : o.Respects w.Locality)
    (hi : o.KeepsIdentity)
    (hw : ∀ p e t, w.entries p = some e → e.testTimer = some t → e.isLocal = false) :
    ∀ p e t, r.1.entries p = some e → e.testTimer = some t → e.isLocal = false := by
  rcases perform_entry_cases h with ⟨key, l, hr⟩ | ⟨q, f, rfl, hr⟩ | ⟨hr, -, -⟩ <;> rw [hr] <;>
    intro p e t he ht
  · -- `AddEntry`: a new entry has no timer
    simp only [World.addEntry_entries, Function.update_apply] at he
    split_ifs at he
    · cases he; cases ht
    · exact hw p e t he ht
  · -- a write of entry `q`
    simp only [World.modifyEntry_entries, Function.update_apply] at he
    split_ifs at he with hpq
    · subst hpq
      obtain ⟨e', he', rfl⟩ := Option.map_eq_some'.mp he
      rw [(hi e').isLocal]
      rcases ho with ⟨e'', he'', hl⟩ | hk
      · rw [he'] at he''
        cases he''
        exact hl
      · exact hw p e' t he' (hk e' t ht)
    · exact hw p e t he ht
  · exact hw p e t he ht

/-- Only `OnStateChange` adds a notification and only `OnBroadcast` a broadcast, each its own. -/
theorem perform_announced (h : w.perform cfg j o = some r) :
    (r.1.notified = w.notified ∨ ∃ p st reason, o = .onStateChange p st reason ∧
      r.1.notified = w.notified ++ [⟨p, st, reason⟩]) ∧
    (r.1.broadcasts = w.broadcasts ∨ ∃ b p, o = .onBroadcast b p ∧
      r.1.broadcasts = w.broadcasts ++ [(b, p)]) := by
  cases o with
  | onStateChange p st reason => cases h; exact ⟨.inr ⟨p, st, reason, rfl, rfl⟩, .inl rfl⟩
  | onBroadcast b p => cases h; exact ⟨.inl rfl, .inr ⟨b, p, rfl, rfl⟩⟩
  | stopTimer t =>
    rcases w.stopTimer_eq_some h with h | ⟨tm, -, h⟩ <;> rw [h] <;> exact ⟨.inl rfl, .inl rfl⟩
  | load p | store p _ => obtain ⟨_, -, rfl⟩ := Option.map_eq_some'.mp h; exact ⟨.inl rfl, .inl rfl⟩
  | rLock p | rUnlock p | lock p | unlock p =>
    simp only [World.perform] at h; split_ifs at h; cases h; exact ⟨.inl rfl, .inl rfl⟩
  | _ => cases h; exact ⟨.inl rfl, .inl rfl⟩

end Perform

/-- No step changes an entry's locality or frees it. -/
theorem EntryInv.step_locality {cfg : Config} {s s' : Sys} (hs : EntryInv s) {a : Action}
    (h : s.step cfg a = some s') {p : Nat} {b : Bool} (hp : s.world.Locality p b) :
    s'.world.Locality p b :=
  let ⟨_, he, hl⟩ := hp
  let ⟨e', he', hid⟩ := hs.step_sameIdentity h he
  ⟨e', he', hid.isLocal.trans hl⟩

/-- Each goroutine's code respects locality, knowing that of every entry; every timer and every
`TestTimer` is for a remote entry, and every broadcast and every user-initiated notification for
a local one. -/
structure LocalityInv (s : Sys) : Prop where
  tasks : ∀ i prog, s.tasks i = some prog → prog.Respects s.world.Locality
  timers : ∀ t tm, s.world.timers t = some tm → s.world.Remote tm.entry
  testTimer : ∀ p e t, s.world.entries p = some e → e.testTimer = some t → e.isLocal = false
  notified : ∀ n ∈ s.world.notified, n.reason = .userInitiated → s.world.Locality n.entry true
  broadcasts : ∀ b ∈ s.world.broadcasts, s.world.Locality b.2 true

namespace LocalityInv

variable {cfg : Config} {s s' : Sys}

theorem init : LocalityInv Sys.init where
  tasks _ _ h := by cases h
  timers _ _ h := by cases h
  testTimer _ _ _ h := by cases h
  notified _ h := by cases h
  broadcasts _ h := by cases h

theorem spawn (hs : LocalityInv s) {prog : Prog Reply} (hp : prog.Respects s.world.Locality) :
    LocalityInv (s.spawn prog) where
  tasks i prog' hi := by
    simp only [Sys.spawn, Function.update_apply] at hi
    split_ifs at hi
    · cases hi; exact hp
    · exact hs.tasks i prog' hi
  timers := hs.timers
  testTimer := hs.testTimer
  notified := hs.notified
  broadcasts := hs.broadcasts

/-- One operation of goroutine `i`, whose code respects locality. -/
theorem exec (hs : LocalityInv s) {i : Nat} {o : Op} {next : o.Ret → Prog Reply}
    (hi : s.tasks i = some (.op o next)) {r : World × o.Ret}
    (hr : s.world.perform cfg i o = some r) (hk : o.KeepsIdentity)
    (hR : ∀ p b, s.world.Locality p b → r.1.Locality p b) :
    LocalityInv { s with world := r.1, tasks := Function.update s.tasks i (some (next r.2)) } := by
  cases hs.tasks i _ hi with
  | op _ _ _ ho hnext =>
  obtain ⟨hn, hb⟩ := perform_announced hr
  refine ⟨fun k prog hk' => ?_, fun t tm ht => ?_, perform_testTimer hr ho hk hs.testTimer,
    fun n hmem hu => ?_, fun b hmem => ?_⟩
  · simp only [Function.update_apply] at hk'
    split_ifs at hk'
    · cases hk'; exact hnext r.2 _ hR (perform_reveals hr hR)
    · exact (hs.tasks k prog hk').mono hR
  · rcases perform_timer_cases hr ht with ⟨tm', ht', he⟩ | ⟨d, rfl⟩
    · exact he ▸ hR _ _ (hs.timers t tm' ht')
    · exact hR _ _ ho
  · rcases hn with hn | ⟨p, st, reason, rfl, hn⟩ <;> simp only [hn, List.mem_append,
      List.mem_singleton] at hmem
    · exact hR _ _ (hs.notified n hmem hu)
    · rcases hmem with hmem | rfl
      · exact hR _ _ (hs.notified n hmem hu)
      · exact hR _ _ (ho hu)
  · rcases hb with hb | ⟨b', p, rfl, hb⟩ <;> simp only [hb, List.mem_append,
      List.mem_singleton] at hmem
    · exact hR _ _ (hs.broadcasts b hmem)
    · rcases hmem with hmem | rfl
      · exact hR _ _ (hs.broadcasts b hmem)
      · exact hR _ _ ho

theorem step (hs : LocalityInv s) (he : EntryInv s) {a : Action} (h : s.step cfg a = some s') :
    LocalityInv s' := by
  have hR : ∀ p b, s.world.Locality p b → s'.world.Locality p b := fun _ _ => he.step_locality h
  cases a with
  | call c =>
    obtain rfl := Sys.step_call cfg h
    exact hs.spawn (Call.respects_prog cfg c)
  | fire t =>
    obtain ⟨tm, htm, -, rfl⟩ := Sys.step_fire cfg h
    have hs' : LocalityInv
        { s with world := s.world.setTimer t { tm with status := .fired s.nextTask } } := by
      refine ⟨hs.tasks, fun t' tm' ht' => ?_, hs.testTimer, hs.notified, hs.broadcasts⟩
      simp only [World.setTimer_timers, Function.update_apply] at ht'
      split_ifs at ht'
      · cases ht'; exact hs.timers t tm htm
      · exact hs.timers t' tm' ht'
    exact hs'.spawn ((respects_programs cfg 0 0).1 _ (hs.timers t tm htm))
  | exec i =>
    obtain ⟨o, next, r, hi, hr, rfl⟩ := Sys.step_exec cfg h
    exact hs.exec hi hr (he.tasks i _ hi).of_op.1 hR

end LocalityInv

theorem LocalityInv.reachable {cfg : Config} {s : Sys} (hr : Reachable cfg s) : LocalityInv s := by
  induction hr with
  | refl => exact .init
  | tail hr' hstep ih => obtain ⟨a, ha⟩ := hstep; exact ih.step (reachable_entryInv hr') ha

/-- In every interleaving, every timer `time.AfterFunc` armed is for a remote entry, and no local
entry has a `TestTimer`: only remote subsystems are ever tested. -/
theorem tests_only_for_remote {cfg : Config} {s : Sys} (hr : Reachable cfg s) :
    (∀ t tm, s.world.timers t = some tm → s.world.Remote tm.entry) ∧
      ∀ p e t, s.world.entries p = some e → e.testTimer = some t → e.isLocal = false :=
  ⟨(LocalityInv.reachable hr).timers, (LocalityInv.reachable hr).testTimer⟩

/-- SSA then SSP for `(10, 7)`: the SSP arms a timer, for the remote entry it made. -/
theorem tests_only_for_remote_ssa_ssp :
    ∃ s, seqRun Config.default [.call (.handleSSA 10 7), .call (.handleSSP 10 7)] Sys.init = some s ∧
      (s.world.timers 0).isSome ∧
      (∀ t tm, s.world.timers t = some tm → s.world.Remote tm.entry) ∧
      ∀ p e t, s.world.entries p = some e → e.testTimer = some t → e.isLocal = false :=
  ⟨_, rfl, rfl, tests_only_for_remote
    (seqRun_steps Config.default [.call (.handleSSA 10 7), .call (.handleSSP 10 7)] _ _ rfl)⟩

/-- In every interleaving, every `OnBroadcast` call and every `OnStateChange` call for a user
request has been for a local entry: a remote subsystem is never announced as a user's. -/
theorem announcements_only_for_local {cfg : Config} {s : Sys} (hr : Reachable cfg s) :
    (∀ n ∈ s.world.notified, n.reason = .userInitiated → s.world.Locality n.entry true) ∧
      ∀ b ∈ s.world.broadcasts, s.world.Locality b.2 true :=
  ⟨(LocalityInv.reachable hr).notified, (LocalityInv.reachable hr).broadcasts⟩

/-- With both callbacks set, `HandleUserInService` for a local entry notifies and broadcasts
it. -/
theorem announcements_only_for_local_uis :
    ∃ s, seqRun { Config.default with onStateChange := true, onBroadcast := true }
        [.call (.addEntry 10 7 true), .call (.handleUserInService 10 7)] Sys.init = some s ∧
      s.world.broadcasts = [(.ssa, 0)] ∧
      (∀ n ∈ s.world.notified, n.reason = .userInitiated → s.world.Locality n.entry true) ∧
      ∀ b ∈ s.world.broadcasts, s.world.Locality b.2 true :=
  ⟨_, rfl, rfl, announcements_only_for_local
    (seqRun_steps { Config.default with onStateChange := true, onBroadcast := true }
      [.call (.addEntry 10 7 true), .call (.handleUserInService 10 7)] _ _ rfl)⟩

end Sccp.Manager
