import Sccp.Manager.Invariant

/-!
# SSN state manager: sequential runs are the functional model

In a sequential run each call and each timer callback runs by itself (`Sys.seqStep`), so what the
run computes is a function of the memory alone. `Event.alone` is one event on the memory: the
memory it leaves and the reply of the goroutine it starts, `none` for one left waiting; `aloneRun`
folds it over a list of events. `seqRun_view_eq_aloneRun` proves that every sequential run of the
goroutine semantics leaves exactly the memory and the replies `aloneRun` computes.

On the functional model every call but `AddEntry` is idempotent: it finds the entry the first
delivery registered and the state it set, and no handler changes a lock (`Call.alone_alone`). So a
network message or a user request delivered twice in a row changes nothing more than the first
delivery and gets the same reply (`duplicate_call_no_effect`).
-/
namespace Sccp.Manager

/-- The reply of a goroutine that has returned. -/
def Prog.reply {α : Type} : Prog α → Option α
  | .pure a => some a
  | .op _ _ => none

/-- Each goroutine's reply, in the order the goroutines were started. -/
def Sys.replies (s : Sys) : List (Option Reply) :=
  (List.range s.nextTask).map fun j => (s.tasks j).bind Prog.reply

/-- What a sequential run is observed by: the memory and every goroutine's reply. -/
def Sys.view (s : Sys) : World × List (Option Reply) := (s.world, s.replies)

/-- One event on the memory, starting goroutine `j`: the memory it leaves and the goroutine's
reply, `none` for the timer callback, which always waits. No event when the timer is not
pending. -/
def Event.alone (cfg : Config) (w : World) (j : Nat) : Event → Option (World × Option Reply)
  | .call c => some (c.alone cfg w)
  | .fire t => (w.fire t j).map fun r => r.1.callbackOn r.2 j

/-- A sequential run on the functional model, from a memory and the replies so far. -/
def aloneRun (cfg : Config) :
    List Event → World × List (Option Reply) → Option (World × List (Option Reply))
  | [], v => some v
  | e :: es, (w, rs) => (e.alone cfg w rs.length).bind fun r => aloneRun cfg es (r.1, rs ++ [r.2])

section Refinement

variable (cfg : Config)

@[simp] theorem Sys.length_replies (s : Sys) : s.replies.length = s.nextTask := by
  simp [Sys.replies]

/-- A goroutine run by itself that has to wait stops at an operation. -/
theorem runAlone_blocked_reply {α : Type} {i : Nat} {w w' : World} {x r : Prog α}
    (h : runAlone cfg i w x = .blocked w' r) : r.reply = none := by
  induction x generalizing w with
  | pure a => cases h
  | op o next ih =>
    simp only [runAlone] at h
    split at h
    · exact ih _ h
    · cases h; rfl

theorem Sys.replies_runTask (s : Sys) (prog : Prog Reply) :
    (s.runTask cfg prog).replies =
      s.replies ++ [(runAlone cfg s.nextTask s.world prog).result.2] := by
  have hnew : ((s.runTask cfg prog).tasks s.nextTask).bind Prog.reply =
      (runAlone cfg s.nextTask s.world prog).result.2 := by
    unfold Sys.runTask
    cases h : runAlone cfg s.nextTask s.world prog with
    | done w a => simp [Prog.reply]
    | blocked w r => simp [runAlone_blocked_reply cfg h]
  simp only [Sys.replies, Sys.runTask_nextTask, List.range_succ, List.map_append, List.map_singleton,
    hnew, List.append_cancel_right_eq]
  refine List.map_congr_left fun j hj => ?_
  rw [Sys.runTask_tasks_of_ne cfg _ _ (Nat.ne_of_lt (List.mem_range.mp hj))]

/-- One event of a sequential run is one event of the functional model. -/
theorem Sys.seqStep_view {s : Sys} (hv : s.world.Valid) (e : Event) :
    (s.seqStep cfg e).map Sys.view =
      (e.alone cfg s.world s.nextTask).map fun r => (r.1, s.replies ++ [r.2]) := by
  cases e with
  | call c =>
    simp [Sys.seqStep, Event.alone, Sys.view, Sys.replies_runTask, Sys.runTask_world,
      runAlone_call cfg _ hv]
  | fire t =>
    cases hf : s.world.fire t s.nextTask with
    | none => simp [Sys.seqStep, Event.alone, hf]
    | some r =>
      simp only [Sys.seqStep, Event.alone, hf, Option.map_some', Sys.view, Sys.replies_runTask,
        Sys.runTask_world, runAlone_sstCallback]
      rfl

/-- Every sequential run from a state of a sequential run leaves the memory and the replies the
functional model computes. -/
theorem SeqInv.seqRun_view {s : Sys} (hs : SeqInv s) (es : List Event) :
    (Manager.seqRun cfg es s).map Sys.view = aloneRun cfg es s.view := by
  induction es generalizing s with
  | nil => rfl
  | cons e es ih =>
    have hstep := Sys.seqStep_view cfg hs.world.valid e
    simp only [Manager.seqRun, aloneRun, Sys.view, Sys.length_replies] at hstep ⊢
    cases h : s.seqStep cfg e with
    | none =>
      rw [h, Option.map_none', eq_comm, Option.map_eq_none'] at hstep
      simp [hstep]
    | some s₁ =>
      rw [h, Option.map_some', eq_comm, Option.map_eq_some'] at hstep
      obtain ⟨r, hr, hv⟩ := hstep
      rw [Option.some_bind, hr, Option.some_bind, hv]
      exact ih (hs.seqStep h)

end Refinement

/-- Every sequential run from the start leaves exactly the memory and the replies of the
functional model. -/
theorem seqRun_view_eq_aloneRun (cfg : Config) (es : List Event) :
    (seqRun cfg es Sys.init).map Sys.view = aloneRun cfg es (World.init, []) :=
  SeqInv.init.seqRun_view cfg es

namespace World

variable (cfg : Config) (w : World)

theorem state_eq_flags (p : Nat) : (w.entries p).map SSNEntry.state = (w.flags p).map Prod.fst := by
  simp only [flags, Option.map_map]; rfl

theorem isLocal_eq_flags (p : Nat) :
    (w.entries p).map SSNEntry.isLocal = (w.flags p).map Prod.snd := by
  simp only [flags, Option.map_map]; rfl

@[simp] theorem registry_cancel (t : Nat) (k : Key) : (w.cancel t).registry k = w.registry k := by
  unfold cancel; split <;> [split_ifs <;> rfl; rfl]

@[simp] theorem registry_stopTest (p : Nat) (k : Key) :
    (w.stopTest p).registry k = w.registry k := by
  unfold stopTest; split <;> simp

@[simp] theorem mutex_stopTest (p q : Nat) : (w.stopTest p).mutex q = w.mutex q := by
  unfold stopTest; split <;> simp

@[simp] theorem registry_startTest (p : Nat) (k : Key) :
    (w.startTest cfg p).registry k = w.registry k := by
  rw [startTest_eq]; split <;> simp

@[simp] theorem mutex_startTest (p q : Nat) : (w.startTest cfg p).mutex q = w.mutex q := by
  rw [startTest_eq]; split <;> simp

@[simp] theorem registry_setState (p : Nat) (st : SSNState) (k : Key) :
    (w.setState p st).registry k = w.registry k := rfl

@[simp] theorem mutex_setState (p : Nat) (st : SSNState) (q : Nat) :
    (w.setState p st).mutex q = w.mutex q := rfl

@[simp] theorem registry_notifyIf (p : Nat) (st : SSNState) (r : StateChangeReason) (k : Key) :
    (w.notifyIf cfg p st r).registry k = w.registry k := by
  unfold notifyIf; split <;> rfl

@[simp] theorem mutex_notifyIf (p : Nat) (st : SSNState) (r : StateChangeReason) (q : Nat) :
    (w.notifyIf cfg p st r).mutex q = w.mutex q := by
  unfold notifyIf; split <;> rfl

@[simp] theorem registry_broadcastIf (b : BroadcastType) (p : Nat) (k : Key) :
    (w.broadcastIf cfg b p).registry k = w.registry k := by
  unfold broadcastIf; split <;> rfl

@[simp] theorem mutex_broadcastIf (b : BroadcastType) (p q : Nat) :
    (w.broadcastIf cfg b p).mutex q = w.mutex q := by
  unfold broadcastIf; split <;> rfl

theorem registry_ssaOn (p : Nat) (k : Key) : (w.ssaOn cfg p).1.registry k = w.registry k := by
  unfold ssaOn; split_ifs <;> simp

theorem registry_sspOn (p : Nat) (k : Key) : (w.sspOn cfg p).1.registry k = w.registry k := by
  unfold sspOn; split_ifs <;> simp

theorem registry_uisOn (p : Nat) (k : Key) : (w.uisOn cfg p).1.registry k = w.registry k := by
  unfold uisOn; split_ifs <;> simp

theorem registry_uosOn (p : Nat) (k : Key) : (w.uosOn cfg p).1.registry k = w.registry k := by
  unfold uosOn; split_ifs <;> simp

/-- The state a handler set, read back through the flags it left. -/
theorem state_of_flags {w' : World} {p : Nat} {st st₀ : SSNState}
    (h : w'.flags = (w.setState p st).flags) (hp : (w.entries p).map SSNEntry.state = some st₀) :
    (w'.entries p).map SSNEntry.state = some st := by
  rw [state_eq_flags, h, flags_setState, if_pos rfl, Option.map_map]
  rw [state_eq_flags] at hp
  cases hf : w.flags p <;> simp_all

theorem isLocal_of_flags {w' : World} {p : Nat} {st : SSNState}
    (h : w'.flags = (w.setState p st).flags) :
    (w'.entries p).map SSNEntry.isLocal = (w.entries p).map SSNEntry.isLocal := by
  rw [isLocal_eq_flags, isLocal_eq_flags, h, flags_setState, if_pos rfl, Option.map_map]; rfl

theorem ssaOn_ssaOn (p : Nat) : (w.ssaOn cfg p).1.ssaOn cfg p = w.ssaOn cfg p := by
  by_cases hm : w.mutex p = .free
  · by_cases hs : (w.entries p).map SSNEntry.state = some .prohibited
    · have hf : (((w.setState p .allowed).stopTest p).notifyIf cfg p .allowed
          .networkInitiated).flags = (w.setState p .allowed).flags := by simp
      simp only [ssaOn, if_pos hm, if_pos hs, mutex_notifyIf, mutex_stopTest, mutex_setState,
        w.state_of_flags hf hs]
      rfl
    · simp only [ssaOn, if_pos hm, if_neg hs]
  · simp only [ssaOn, if_neg hm]

theorem sspOn_sspOn (p : Nat) : (w.sspOn cfg p).1.sspOn cfg p = w.sspOn cfg p := by
  by_cases hm : w.mutex p = .free
  · by_cases hs : (w.entries p).map SSNEntry.state = some .allowed
    · by_cases hl : (w.entries p).map SSNEntry.isLocal = some true
      · have hf : ((w.setState p .prohibited).notifyIf cfg p .prohibited .networkInitiated).flags =
            (w.setState p .prohibited).flags := by simp
        simp only [sspOn, if_pos hm, if_pos hs, if_pos hl, mutex_notifyIf, mutex_setState,
          w.state_of_flags hf hs]
        rfl
      · have hf : (((w.setState p .prohibited).startTest cfg p).notifyIf cfg p .prohibited
            .networkInitiated).flags = (w.setState p .prohibited).flags := by simp
        simp only [sspOn, if_pos hm, if_pos hs, if_neg hl, mutex_notifyIf, mutex_startTest,
          mutex_setState, w.state_of_flags hf hs]
        rfl
    · simp only [sspOn, if_pos hm, if_neg hs]
  · simp only [sspOn, if_neg hm]

theorem uisOn_uisOn (p : Nat) : (w.uisOn cfg p).1.uisOn cfg p = w.uisOn cfg p := by
  by_cases hl : (w.entries p).map SSNEntry.isLocal ≠ some true
  · simp only [uisOn, if_pos hl]
  by_cases hm : w.mutex p = .free
  · by_cases hs : (w.entries p).map SSNEntry.state = some .prohibited
    · have hf : (((w.setState p .allowed).notifyIf cfg p .allowed .userInitiated).broadcastIf cfg
          .ssa p).flags = (w.setState p .allowed).flags := by simp
      simp only [uisOn, if_neg hl, if_pos hm, if_pos hs, mutex_broadcastIf, mutex_notifyIf,
        mutex_setState, w.state_of_flags hf hs, w.isLocal_of_flags hf]
      rfl
    · simp only [uisOn, if_neg hl, if_pos hm, if_neg hs]
  · simp only [uisOn, if_neg hl, if_neg hm]

theorem uosOn_uosOn (p : Nat) : (w.uosOn cfg p).1.uosOn cfg p = w.uosOn cfg p := by
  by_cases hl : (w.entries p).map SSNEntry.isLocal ≠ some true
  · simp only [uosOn, if_pos hl]
  by_cases hm : w.mutex p = .free
  · by_cases hs : (w.entries p).map SSNEntry.state = some .allowed
    · have hf : ((((w.setState p .prohibited).stopTest p).notifyIf cfg p .prohibited
          .userInitiated).broadcastIf cfg .ssp p).flags = (w.setState p .prohibited).flags := by simp
      simp only [uosOn, if_neg hl, if_pos hm, if_pos hs, mutex_broadcastIf, mutex_notifyIf,
        mutex_stopTest, mutex_setState, w.state_of_flags hf hs, w.isLocal_of_flags hf]
      rfl
    · simp only [uosOn, if_neg hl, if_pos hm, if_neg hs]
  · simp only [uosOn, if_neg hl, if_neg hm]

theorem getOrAdd_of_registry {key : Key} {p : Nat} (h : w.registry key = some p) :
    w.getOrAdd cfg key = (w, p) := by
  simp [getOrAdd, h]

theorem registry_getOrAdd (key : Key) :
    (w.getOrAdd cfg key).1.registry key = some (w.getOrAdd cfg key).2 := by
  unfold getOrAdd; split <;> simp_all

/-- A handler that opens with `getOrAddEntry`, run again on the memory it left: it finds the
entry it used before. -/
theorem getOrAdd_again {f : World → Nat → World × Option Reply}
    (hreg : ∀ w p, (f w p).1.registry = w.registry) (hf : ∀ w p, f (f w p).1 p = f w p) (key : Key) :
    f ((f (w.getOrAdd cfg key).1 (w.getOrAdd cfg key).2).1.getOrAdd cfg key).1
        ((f (w.getOrAdd cfg key).1 (w.getOrAdd cfg key).2).1.getOrAdd cfg key).2 =
      f (w.getOrAdd cfg key).1 (w.getOrAdd cfg key).2 := by
  rw [getOrAdd_of_registry cfg _ ((congrFun (hreg _ _) key).trans (registry_getOrAdd cfg w key)), hf]

/-- A handler that opens with `GetEntry`, run again on the memory it left. -/
theorem found_again {k : World → Nat → World × Option Reply}
    (hreg : ∀ w p, (k w p).1.registry = w.registry) (hk : ∀ w p, k (k w p).1 p = k w p)
    (pc : UInt16) (ssn : UInt8) :
    (w.found pc ssn (k w)).1.found pc ssn (k (w.found pc ssn (k w)).1) = w.found pc ssn (k w) := by
  cases hp : w.registry (pc, ssn) with
  | some p =>
    simp only [found, hp]
    rw [congrFun (hreg w p) (pc, ssn), hp]
    exact hk w p
  | none => simp only [found, hp]

theorem mutex_getOrAdd (key : Key) (p : Nat) : (w.getOrAdd cfg key).1.mutex p = w.mutex p := by
  unfold getOrAdd; split <;> rfl

/-- A handler whose entry's lock is free runs to its reply. -/
theorem ssaOn_reply {p : Nat} (h : w.mutex p = .free) : (w.ssaOn cfg p).2.isSome := by
  unfold ssaOn; split_ifs <;> rfl

theorem sspOn_reply {p : Nat} (h : w.mutex p = .free) : (w.sspOn cfg p).2.isSome := by
  unfold sspOn; split_ifs <;> rfl

theorem sstOn_reply {p : Nat} (h : w.mutex p = .free) : (w.sstOn p).2.isSome := by
  unfold sstOn; split_ifs with hc
  · exact absurd h hc.2
  · rfl

theorem uisOn_reply {p : Nat} (h : w.mutex p = .free) : (w.uisOn cfg p).2.isSome := by
  unfold uisOn; split_ifs <;> rfl

theorem uosOn_reply {p : Nat} (h : w.mutex p = .free) : (w.uosOn cfg p).2.isSome := by
  unfold uosOn; split_ifs <;> rfl

end World

/-- With every entry lock free, every call run by itself returns. -/
theorem Call.alone_reply (cfg : Config) {w : World} (hm : ∀ p, w.mutex p = .free) (c : Call) :
    (c.alone cfg w).2.isSome := by
  have onKey : ∀ key : Key, ((w.getOrAdd cfg key).1.mutex (w.getOrAdd cfg key).2) = .free :=
    fun key => (w.mutex_getOrAdd cfg key _).trans (hm _)
  have found : ∀ (pc : UInt16) (ssn : UInt8) (k : Nat → World × Option Reply),
      (∀ p, w.mutex p = .free → (k p).2.isSome) → (w.found pc ssn k).2.isSome := by
    intro pc ssn k hk
    unfold World.found
    split
    · exact hk _ (hm _)
    · rfl
  cases c with
  | addEntry => rfl
  | handleUserInService pc ssn => exact found pc ssn _ fun p => w.uisOn_reply cfg
  | handleUserOutOfService pc ssn => exact found pc ssn _ fun p => w.uosOn_reply cfg
  | handleSSA pc ssn => exact World.ssaOn_reply cfg _ (onKey _)
  | handleSSP pc ssn => exact World.sspOn_reply cfg _ (onKey _)
  | handleSST pc ssn => exact World.sstOn_reply _ (onKey _)
  | processSCMGMessage m =>
    simp only [Call.alone]
    split_ifs
    · exact World.ssaOn_reply cfg _ (onKey _)
    · exact World.sspOn_reply cfg _ (onKey _)
    · exact World.sstOn_reply _ (onKey _)
    · rfl

/-- Whether a call is `AddEntry`, the one call that always allocates a new entry. -/
def Call.addsEntry : Call → Bool
  | .addEntry .. => true
  | _ => false

/-- Every call but `AddEntry`, run by itself on the memory it left, leaves it as it is and gives
the same reply. -/
theorem Call.alone_alone (cfg : Config) (w : World) {c : Call} (hc : c.addsEntry = false) :
    c.alone cfg (c.alone cfg w).1 = c.alone cfg w := by
  have ssa := w.getOrAdd_again cfg (f := fun w p => w.ssaOn cfg p)
    (fun w p => funext (w.registry_ssaOn cfg p)) (fun w p => w.ssaOn_ssaOn cfg p)
  have ssp := w.getOrAdd_again cfg (f := fun w p => w.sspOn cfg p)
    (fun w p => funext (w.registry_sspOn cfg p)) (fun w p => w.sspOn_sspOn cfg p)
  have sst := w.getOrAdd_again cfg (f := fun w p => w.sstOn p)
    (fun w p => by rw [World.sstOn_fst]) (fun w p => by rw [World.sstOn_fst])
  cases c with
  | addEntry => cases hc
  | handleUserInService pc ssn =>
    exact w.found_again (k := fun w => w.uisOn cfg) (fun w p => funext (w.registry_uisOn cfg p))
      (fun w p => w.uisOn_uisOn cfg p) pc ssn
  | handleUserOutOfService pc ssn =>
    exact w.found_again (k := fun w => w.uosOn cfg) (fun w p => funext (w.registry_uosOn cfg p))
      (fun w p => w.uosOn_uosOn cfg p) pc ssn
  | handleSSA pc ssn => exact ssa _
  | handleSSP pc ssn => exact ssp _
  | handleSST pc ssn => exact sst _
  | processSCMGMessage m =>
    simp only [Call.alone]
    split_ifs
    · exact ssa _
    · exact ssp _
    · exact sst _
    · rfl

section Sequential

variable {cfg : Config} {s : Sys}

/-- A single call in a sequential run leaves the memory the functional model gives. -/
theorem SeqInv.seqRun_call_world (hs : SeqInv s) (c : Call) :
    (Manager.seqRun cfg [.call c] s).map Sys.world = some (c.alone cfg s.world).1 := by
  show (some (s.runTask cfg (c.prog cfg))).map Sys.world = _
  rw [Option.map_some', Sys.runTask_world, runAlone_call cfg _ hs.world.valid]

/-- In every state of a sequential run, a call other than `AddEntry` delivered twice in a row
leaves the memory its first delivery leaves, and the second goroutine gets the first one's
reply. -/
theorem duplicate_call_no_effect (hs : SeqReachable cfg s) {c : Call} (hc : c.addsEntry = false) :
    ∃ w r, (seqRun cfg [.call c] s).map Sys.view = some (w, s.replies ++ [r]) ∧
      (seqRun cfg [.call c, .call c] s).map Sys.view = some (w, s.replies ++ [r, r]) := by
  refine ⟨(c.alone cfg s.world).1, (c.alone cfg s.world).2, ?_, ?_⟩ <;>
    rw [hs.inv.seqRun_view cfg] <;> simp [aloneRun, Event.alone, Sys.view, Call.alone_alone cfg _ hc]

/-- An SSA for `(10, 7)` delivered twice to the new manager. -/
theorem duplicate_call_no_effect_ssa :
    ∃ w r, (seqRun Config.default [.call (.handleSSA 10 7)] Sys.init).map Sys.view =
        some (w, Sys.init.replies ++ [r]) ∧
      (seqRun Config.default [.call (.handleSSA 10 7), .call (.handleSSA 10 7)] Sys.init).map
        Sys.view = some (w, Sys.init.replies ++ [r, r]) :=
  duplicate_call_no_effect ⟨[], rfl⟩ rfl

/-- On the functional model, a run of calls alone from a memory with every entry lock free gives
every call a reply: only a timer callback takes a lock and keeps it. -/
theorem aloneRun_replies {es : List Event} (hes : ∀ t, Event.fire t ∉ es) {w : World}
    {rs : List (Option Reply)} (hw : w.Inv) (hm : ∀ p, w.mutex p = .free)
    (hrs : ∀ r ∈ rs, r.isSome) {v : World × List (Option Reply)}
    (h : aloneRun cfg es (w, rs) = some v) :
    ∀ r ∈ v.2, r.isSome := by
  induction es generalizing w rs with
  | nil => cases h; exact hrs
  | cons e es ih =>
    cases e with
    | fire t => exact absurd (List.mem_cons_self _ _) (hes t)
    | call c =>
      have hok := Call.alone_ok cfg hw c
      refine ih (fun t ht => hes t (List.mem_cons_of_mem _ ht)) hok.inv
        (fun p => (congrFun hok.mutex p).trans (hm p)) ?_ h
      intro r hr
      rcases List.mem_append.mp hr with hr | hr
      · exact hrs r hr
      · rw [List.mem_singleton.mp hr]; exact Call.alone_reply cfg hm c

/-- In every sequential run in which no timer fires, every goroutine has returned: the API
blocks only behind a timer callback. -/
theorem calls_return_without_timers {es : List Event} (hes : ∀ t, Event.fire t ∉ es)
    (h : seqRun cfg es Sys.init = some s) {j : Nat} (hj : j < s.nextTask) :
    ∃ a, s.tasks j = some (.pure a) := by
  have hv := seqRun_view_eq_aloneRun cfg es
  rw [h, Option.map_some'] at hv
  have hr := aloneRun_replies hes World.Inv.init (fun _ => rfl) (by simp) hv.symm
    ((s.tasks j).bind Prog.reply) (List.mem_map.mpr ⟨j, List.mem_range.mpr hj, rfl⟩)
  obtain ⟨a, ha⟩ := Option.isSome_iff_exists.mp hr
  rcases ht : s.tasks j with _ | _ | _ <;> simp_all [Prog.reply]

/-- `deadlockRun` without its timer expiry: SSA, SSP and SSA again for `(10, 7)` all return. -/
theorem calls_return_without_timers_ssa_ssp :
    ∃ s, seqRun Config.default [.call (.handleSSA 10 7), .call (.handleSSP 10 7),
        .call (.handleSSA 10 7)] Sys.init = some s ∧ s.nextTask = 3 ∧
      ∀ j < s.nextTask, ∃ a, s.tasks j = some (.pure a) := by
  have hs : seqRun Config.default [.call (.handleSSA 10 7), .call (.handleSSP 10 7),
      .call (.handleSSA 10 7)] Sys.init = some (((Sys.init.runTask Config.default
        ((Call.handleSSA 10 7).prog Config.default)).runTask Config.default
          ((Call.handleSSP 10 7).prog Config.default)).runTask Config.default
            ((Call.handleSSA 10 7).prog Config.default)) := rfl
  exact ⟨_, hs, by simp only [Sys.runTask_nextTask]; rfl,
    fun j hj => calls_return_without_timers (by simp) hs hj⟩

end Sequential

end Sccp.Manager
