import Sccp.Manager.Progress

/-!
# SSN state manager: only the timer callback's own lock keeps a goroutine waiting

With timer expiries a goroutine is one of three things: a call's goroutine, which keeps to the
lock discipline strictly; a timer callback that has not taken its entry's lock; or a timer
callback that holds its entry's write lock and waits for the read lock of the same entry, which
it never gets (`performSST_self_deadlock`). A timer callback that takes its lock goes straight to
the last of these, since its next operation is that `RLock` (`sstCallback_eq`).

So in every interleaving, a goroutine that cannot go on waits for the lock of an entry whose
holder either can go on or is a timer callback waiting on itself
(`waits_only_behind_callbacks`): the self-deadlock of `performSST` is the only thing that keeps
goroutines waiting for good. Since goroutine steps alone always stop, every schedule of them ends
with each goroutine returned or waiting behind such a callback (`schedules_end_behind_callbacks`).
-/
namespace Sccp.Manager

/-- What goroutine `i`, with remaining code `prog`, is when timers fire: a goroutine keeping to
the lock discipline strictly from the locks it holds, a timer callback before its `Lock`, holding
nothing, or a timer callback waiting on its own entry, holding only that entry's write lock. -/
def Sys.Shape (cfg : Config) (s : Sys) (i : Nat) (prog : Prog Reply) : Prop :=
  (∃ hd, prog.RWLocked true hd .free ∧ s.world.Holds i hd) ∨
    (∃ p, prog = sstCallback cfg p ∧ s.world.Holds i .free) ∨
    ∃ p, s.SelfWaiting i p ∧ s.world.Holds i ⟨some p, none⟩

/-- Every goroutine has one of the three shapes. -/
def Sys.Shaped (cfg : Config) (s : Sys) : Prop :=
  ∀ i prog, s.tasks i = some prog → s.Shape cfg i prog

section Steps

variable {cfg : Config} {s s' : Sys} {a : Action}

/-- A step of another goroutine, a call or a timer leaves the locks goroutine `i` holds. -/
theorem Sys.holds_step (h : s.step cfg a = some s') {i : Nat} (ha : ∀ j, a = .exec j → j ≠ i)
    {hd : Hold} (hh : s.world.Holds i hd) : s'.world.Holds i hd := by
  cases a with
  | call c => obtain rfl := Sys.step_call cfg h; exact hh
  | fire t => obtain ⟨tm, -, -, rfl⟩ := Sys.step_fire cfg h; exact hh
  | exec j =>
    obtain ⟨o, next, r, -, hr, rfl⟩ := Sys.step_exec cfg h
    intro p
    rw [(perform_holds_ne hr (ha j rfl).symm p).1, (perform_holds_ne hr (ha j rfl).symm p).2]
    exact hh p

/-- A goroutine that does not move keeps its shape. -/
theorem Sys.Shape.of_step (h : s.step cfg a = some s') {i : Nat} (ha : ∀ j, a = .exec j → j ≠ i)
    {prog : Prog Reply} (hs : s.Shape cfg i prog) : s'.Shape cfg i prog := by
  rcases hs with ⟨hd, hL, hh⟩ | ⟨p, hp, hh⟩ | ⟨p, hw, hh⟩
  · exact .inl ⟨hd, hL, Sys.holds_step h ha hh⟩
  · exact .inr (.inl ⟨p, hp, Sys.holds_step h ha hh⟩)
  · exact .inr (.inr ⟨p, Sys.selfWaiting_step h hw, Sys.holds_step h ha hh⟩)

/-- The goroutine that moves: a strict one stays strict, a timer callback that takes its lock
waits on itself next, and one that waits on itself cannot move. -/
theorem Sys.Shape.exec (hh : HoldInv false s) {i : Nat} {o : Op} {next : o.Ret → Prog Reply}
    (hi : s.tasks i = some (.op o next)) {r : World × o.Ret}
    (hr : s.world.perform cfg i o = some r) (hs : s.Shape cfg i (.op o next)) :
    Sys.Shape cfg { s with world := r.1, tasks := Function.update s.tasks i (some (next r.2)) } i
      (next r.2) := by
  rcases hs with ⟨hd, hL, hho⟩ | ⟨p, hp, hho⟩ | ⟨p, hw, -⟩
  · cases hL with
    | op _ _ _ _ hk hnext => exact .inl ⟨_, hnext r.2, (perform_holds hr hk hho hh.nodup).1⟩
  · obtain ⟨k, hk⟩ := sstCallback_eq cfg p
    rw [hk] at hp
    cases hp
    have hho' := (perform_holds hr (show (Op.lock p).Keeps true .free from rfl) hho hh.nodup).1
    have hlt : i < s.nextTask :=
      Nat.lt_of_not_le fun hle => by simp [hh.freshTask i hle] at hi
    refine .inr (.inr ⟨p, ⟨?_, (hho' p).1.mpr rfl, hlt⟩, hho'⟩)
    simp only [Sys.lockRequest, Function.update_same, Option.some_bind]; rfl
  · have hreq := hw.1
    rw [Sys.lockRequest, hi, Option.some_bind] at hreq
    rw [perform_of_lockRequest hreq hw.2.1] at hr
    cases hr

theorem Sys.Shaped.step (hs : s.Shaped cfg) (hh : HoldInv false s) (h : s.step cfg a = some s') :
    s'.Shaped cfg := by
  intro i prog hi
  cases a with
  | call c =>
    obtain rfl := Sys.step_call cfg h
    by_cases hn : i = s.nextTask
    · subst hn
      simp only [Sys.spawn, Function.update_same, Option.some.injEq] at hi
      subst hi
      exact .inl ⟨.free, Call.rwLocked_prog cfg c, hh.holds_nextTask⟩
    · have hi' : s.tasks i = some prog := by simpa [Sys.spawn, Function.update_noteq hn] using hi
      exact (hs i prog hi').of_step h nofun
  | fire t =>
    obtain ⟨tm, -, -, rfl⟩ := Sys.step_fire cfg h
    by_cases hn : i = s.nextTask
    · subst hn
      simp only [Sys.spawn, Function.update_same, Option.some.injEq] at hi
      subst hi
      exact .inr (.inl ⟨tm.entry, rfl, hh.holds_nextTask⟩)
    · have hi' : s.tasks i = some prog := by simpa [Sys.spawn, Function.update_noteq hn] using hi
      exact (hs i prog hi').of_step h nofun
  | exec j =>
    obtain ⟨o, next, r, hj, hr, rfl⟩ := Sys.step_exec cfg h
    by_cases hij : i = j
    · subst hij
      simp only [Function.update_same, Option.some.injEq] at hi
      subst hi
      exact (hs i _ hj).exec hh hj hr
    · have hi' : s.tasks i = some prog := by simpa [Function.update_noteq hij] using hi
      exact (hs i prog hi').of_step h fun _ he => by cases he; exact Ne.symm hij

end Steps

theorem Sys.shaped_reachable {cfg : Config} {s : Sys} (hr : Reachable cfg s) : s.Shaped cfg := by
  induction hr with
  | refl => intro _ _ h; cases h
  | tail hr' hstep ih => obtain ⟨a, ha⟩ := hstep; exact ih.step (HoldInv.reachable hr') ha

section Waiting

variable {cfg : Config} {s : Sys}

/-- A goroutine that cannot perform its next operation waits for the lock of an entry that some
goroutine holds. -/
theorem Sys.waits_for_held (hr : Reachable cfg s) {i : Nat} {o : Op} {next : o.Ret → Prog Reply}
    (hi : s.tasks i = some (.op o next)) (hn : s.world.perform cfg i o = none) :
    ∃ p k, (o = .lock p ∨ o = .rLock p) ∧ s.world.HeldBy p k := by
  have hp := PtrInv.reachable hr
  obtain ⟨p, hop⟩ := waits_for_lock_of_inv (HoldInv.reachable hr) hp hi hn
  cases hp.tasks i _ hi with
  | op _ _ _ _ ho _ => exact ⟨p, (heldBy_of_perform_none hp.world hop ho hn).imp fun _ => .intro hop⟩

/-- A goroutine that holds a lock can go on, unless it is a timer callback that holds that entry's
write lock and waits for its read lock. -/
theorem Sys.holder_can_step_or_selfWaiting (hr : Reachable cfg s) {p k : Nat}
    (hk : s.world.HeldBy p k) : (∃ s', s.step cfg (.exec k) = some s') ∨ s.SelfWaiting k p := by
  obtain ⟨prog, hprog⟩ := Option.isSome_iff_exists.mp ((HoldInv.reachable hr).holder p k hk)
  rcases Sys.shaped_reachable hr k prog hprog with ⟨hd, hL, hh⟩ | ⟨q, -, hh⟩ | ⟨q, hw, hh⟩
  · exact .inl (can_step_of_strict (PtrInv.reachable hr) hprog hL hh (hh.ne_free hk))
  · exact absurd rfl (hh.ne_free hk)
  · -- the callback holds only `q`'s write lock
    rcases hk with hk | hk
    · obtain rfl := Option.some.inj ((hh p).1.mp hk)
      exact .inr hw
    · cases (hh p).2.mp hk

end Waiting

/-- In every interleaving, a goroutine that cannot perform its next operation waits for the lock
of an entry held by a goroutine that can go on, or held for writing by a timer callback that
waits for its own read lock of it: the self-deadlock of `performSST` is the only thing that keeps
a goroutine waiting for good. -/
theorem waits_only_behind_callbacks {cfg : Config} {s : Sys} (hr : Reachable cfg s) {i : Nat}
    {o : Op} {next : o.Ret → Prog Reply} (hi : s.tasks i = some (.op o next))
    (hn : s.world.perform cfg i o = none) :
    ∃ p k, (o = .lock p ∨ o = .rLock p) ∧ s.world.HeldBy p k ∧
      ((∃ s', s.step cfg (.exec k) = some s') ∨ s.SelfWaiting k p) := by
  obtain ⟨p, k, hop, hk⟩ := Sys.waits_for_held hr hi hn
  exact ⟨p, k, hop, hk, Sys.holder_can_step_or_selfWaiting hr hk⟩

/-- After `deadlockRun`, goroutine 3, the second SSA, waits for the read lock of entry 0, which
the timer callback, goroutine 2, holds and waits on itself. -/
theorem waits_only_behind_callbacks_deadlockRun :
    ∃ s, seqRun Config.default deadlockRun Sys.init = some s ∧ ∃ o next,
      s.tasks 3 = some (.op o next) ∧ s.world.perform Config.default 3 o = none ∧
        ∃ p k, (o = .lock p ∨ o = .rLock p) ∧ s.world.HeldBy p k ∧
          ((∃ s', s.step Config.default (.exec k) = some s') ∨ s.SelfWaiting k p) := by
  obtain ⟨s, hs⟩ : ∃ s, seqRun Config.default deadlockRun Sys.init = some s := ⟨_, rfl⟩
  have hc : (seqRun Config.default deadlockRun Sys.init).map (fun s => match s.tasks 3 with
      | some (.op o _) => (s.world.perform Config.default 3 o).isNone
      | _ => false) = some true := by decide
  simp only [hs, Option.map_some', Option.some.injEq] at hc
  split at hc
  · next o next ho =>
    have hn : s.world.perform Config.default 3 o = none := Option.isNone_iff_eq_none.mp hc
    exact ⟨s, hs, o, next, ho, hn, waits_only_behind_callbacks (seqRun_steps _ _ _ _ hs) ho hn⟩
  · cases hc

/-- With timer expiries too, from every reachable state every schedule of goroutine steps is
finite, and once no goroutine can go on, each goroutine has returned or waits for the lock of an
entry that a timer callback holds for writing while it waits for that entry's read lock: the
self-deadlock of `performSST` is the only way a goroutine never returns. -/
theorem schedules_end_behind_callbacks {cfg : Config} {s : Sys} (hr : Reachable cfg s) :
    Acc (fun s' s => Sys.ExecStep cfg s s') s ∧
      ∀ s', Relation.ReflTransGen (Sys.ExecStep cfg) s s' → (∀ j, s'.step cfg (.exec j) = none) →
        ∀ i prog, s'.tasks i = some prog → (∃ a, prog = .pure a) ∨
          ∃ o next p k, prog = .op o next ∧ (o = .lock p ∨ o = .rLock p) ∧
            s'.world.HeldBy p k ∧ s'.SelfWaiting k p := by
  refine ⟨Sys.execStep_acc s (HoldInv.reachable hr).freshTask, fun s' hs' hstuck i prog hi => ?_⟩
  have hr' : Reachable cfg s' := hr.trans (hs'.mono fun _ _ ⟨j, h⟩ => ⟨.exec j, h⟩)
  cases prog with
  | pure a => exact .inl ⟨a, rfl⟩
  | op o next =>
    have hn : s'.world.perform cfg i o = none := by
      cases hp : s'.world.perform cfg i o with
      | none => rfl
      | some r => exact absurd (hstuck i) (by simp [Sys.step, hi, hp])
    obtain ⟨p, k, hop, hk⟩ := Sys.waits_for_held hr' hi hn
    refine .inr ⟨o, next, p, k, rfl, hop, hk, ?_⟩
    rcases Sys.holder_can_step_or_selfWaiting hr' hk with ⟨s'', h⟩ | hw
    · cases (hstuck k).symm.trans h
    · exact hw

/-- After `deadlockRun`, every schedule of goroutine steps ends, and each goroutine left has
returned or waits behind the timer callback that waits on itself. -/
theorem schedules_end_behind_callbacks_deadlockRun :
    ∃ s, seqRun Config.default deadlockRun Sys.init = some s ∧
      Acc (fun s' s => Sys.ExecStep Config.default s s') s ∧
      ∀ s', Relation.ReflTransGen (Sys.ExecStep Config.default) s s' →
        (∀ j, s'.step Config.default (.exec j) = none) →
        ∀ i prog, s'.tasks i = some prog → (∃ a, prog = .pure a) ∨
          ∃ o next p k, prog = .op o next ∧ (o = .lock p ∨ o = .rLock p) ∧
            s'.world.HeldBy p k ∧ s'.SelfWaiting k p := by
  obtain ⟨s, hs⟩ : ∃ s, seqRun Config.default deadlockRun Sys.init = some s := ⟨_, rfl⟩
  exact ⟨s, hs, schedules_end_behind_callbacks (seqRun_steps _ _ _ _ hs)⟩

end Sccp.Manager
