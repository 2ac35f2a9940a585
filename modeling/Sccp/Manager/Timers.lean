import Sccp.Manager.Invariant

/-!
# SSN state manager: armed SST timers

A timer is armed while it is scheduled and not stopped, or has fired and its `performSST` has not
returned. In a sequential run every entry has at most one armed timer, and the entry of an armed
timer is remote and Prohibited (`armed_timer_unique_per_entry`). A `(PointCode, SSN)` may have
two: `AddEntry` replaces the registered entry without stopping the old entry's timer
(`addEntry_leaves_timer_armed`). When a timer's callback runs after later calls, one entry has
two as well: `stopSST` calls `Stop` on a timer that has already fired, which does not wait for its
`performSST`, and the next `startSST` arms another (`stop_after_fire_two_armed`).
-/
namespace Sccp.Manager

namespace Sys

/-- Goroutine `j` has returned. -/
def returned (s : Sys) (j : Nat) : Bool :=
  match s.tasks j with
  | some (.pure _) => true
  | _ => false

/-- Timer `t` is an armed timer of entry `p`: made for `p`, and pending, or fired with its
`performSST` not returned. -/
def armed (s : Sys) (t p : Nat) : Bool :=
  match s.world.timers t with
  | some tm => tm.entry == p && match tm.status with
    | .pending => true
    | .stopped => false
    | .fired j => !s.returned j
  | none => false

variable {s : Sys}

theorem armed_eq_true {t p : Nat} (h : s.armed t p = true) :
    ∃ st, s.world.timersOf p t = some st ∧ st ≠ .stopped := by
  unfold armed at h
  split at h
  · next tm ht =>
    simp only [Bool.and_eq_true, beq_iff_eq] at h
    refine ⟨tm.status, s.world.timersOf_of_timers ht h.1, fun hs => ?_⟩
    rw [hs] at h
    exact absurd h.2 (by simp)
  · cases h

/-- A goroutine waiting for a lock has not returned. -/
theorem returned_of_lockRequest {j : Nat} {r : Nat × Bool} (h : s.lockRequest j = some r) :
    s.returned j = false := by
  unfold lockRequest at h
  unfold returned
  split
  · next a ha => simp [ha, Prog.lockRequest] at h
  · rfl

end Sys

/-- The `(PointCode, SSN)` an entry was made for. -/
def World.keyOf (w : World) (p : Nat) : Option Key := (w.entries p).map fun e => (e.pointCode, e.ssn)

section Armed

variable {s : Sys}

/-- In a sequential run an armed timer is the one its entry's test is about, and the entry is
remote and Prohibited. -/
theorem SeqInv.armed_phase (hs : SeqInv s) {t p : Nat} (h : s.armed t p = true) :
    ∃ e ph, s.world.entries p = some e ∧ (s.world.testView p).Is ph ∧ ph.timer = some t ∧
      e.isLocal = false ∧ e.state = .prohibited := by
  obtain ⟨st, hst, hns⟩ := Sys.armed_eq_true h
  obtain ⟨tm, ht, hte, -⟩ := s.world.timersOf_eq_some hst
  obtain ⟨e, ph, he, hph, hc⟩ := hs.world.phase_of_lt (hte ▸ hs.world.timerEntry t tm ht)
  have htimer := hph.timer_eq hst hns
  refine ⟨e, ph, he, hph, htimer, hc ?_⟩
  rintro rfl
  cases htimer

/-- In a sequential run an entry has an armed timer exactly when its test is not idle: a fired
timer's callback never returns. -/
theorem SeqInv.exists_armed_iff (hs : SeqInv s) {p : Nat} {ph : TestPhase}
    (hph : (s.world.testView p).Is ph) : (∃ t, s.armed t p = true) ↔ ph ≠ .idle := by
  constructor
  · rintro ⟨t, ht⟩ rfl
    obtain ⟨e, ph', -, hph', htimer, -⟩ := hs.armed_phase ht
    cases hph'.unique hph
    cases htimer
  · intro hne
    cases ph with
    | idle => exact absurd rfl hne
    | pending t =>
      obtain ⟨tm, ht, hte, hst⟩ := s.world.timersOf_eq_some hph.2.2.1
      exact ⟨t, by simp [Sys.armed, ht, hte, hst]⟩
    | stuck t j =>
      obtain ⟨tm, ht, hte, hst⟩ := s.world.timersOf_eq_some hph.2.2.1
      have hr := Sys.returned_of_lockRequest (hs.stuck p t j hph).1
      exact ⟨t, by simp [Sys.armed, ht, hte, hst, hr]⟩

end Armed

/-- SSA then SSP for `(10, 7)` arm timer 0 for entry 0; `AddEntry(10, 7, false)` registers entry
1 in its place, and SSA then SSP arm timer 1 for it. -/
def addEntryRun : List Event :=
  [.call (.handleSSA 10 7), .call (.handleSSP 10 7), .call (.addEntry 10 7 false),
    .call (.handleSSA 10 7), .call (.handleSSP 10 7)]

theorem addEntry_leaves_timer_armed :
    ∃ s, seqRun Config.default addEntryRun Sys.init = some s ∧
      s.armed 0 0 = true ∧ s.armed 1 1 = true ∧
      s.world.keyOf 0 = some (10, 7) ∧ s.world.keyOf 1 = some (10, 7) := by
  have hc : (seqRun Config.default addEntryRun Sys.init).map (fun s =>
      s.armed 0 0 && s.armed 1 1 && s.world.keyOf 0 == some (10, 7) &&
        s.world.keyOf 1 == some (10, 7)) = some true := by decide
  cases hs : seqRun Config.default addEntryRun Sys.init with
  | none => simp [hs] at hc
  | some s =>
    simp only [hs, Option.map_some', Option.some.injEq, Bool.and_eq_true, beq_iff_eq] at hc
    exact ⟨s, rfl, hc.1.1.1, hc.1.1.2, hc.1.2, hc.2⟩

/-- In a sequential run each entry has at most one armed SST timer, and it is remote and
Prohibited; in every run, every SST handed to the transport is for a key whose registered entry
is remote and Prohibited. -/
theorem armed_timer_unique_per_entry {cfg : Config} {s : Sys} (h : SeqReachable cfg s) :
    (∀ p t t', s.armed t p = true → s.armed t' p = true → t = t') ∧
    (∀ p t, s.armed t p = true →
      ∃ e, s.world.entries p = some e ∧ e.isLocal = false ∧ e.state = .prohibited) ∧
    ∀ s', Reachable cfg s' → ∀ m ∈ s'.world.sent, ∃ p e, s'.world.registry m.1 = some p ∧
      s'.world.entries p = some e ∧ e.isLocal = false ∧ e.state = .prohibited := by
  have hs := h.inv
  refine ⟨fun p t t' ht ht' => ?_, fun p t ht => ?_, fun s' hr m hm => ?_⟩
  · obtain ⟨e, ph, -, hph, htimer, -⟩ := hs.armed_phase ht
    obtain ⟨e', ph', -, hph', htimer', -⟩ := hs.armed_phase ht'
    cases hph.unique hph'
    exact Option.some.inj (htimer.symm.trans htimer')
  · obtain ⟨e, -, he, -, -, hl, hst⟩ := hs.armed_phase ht
    exact ⟨e, he, hl, hst⟩
  · rw [(reachable_noSST hr).sent] at hm
    cases hm

/-- SSA then SSP for `(10, 7)` arm timer 0 for entry 0, and it fires. Before its callback,
goroutine 2, runs, a second SSA stops timer 0, which has fired, and a second SSP arms timer 1 for
entry 0. -/
def stopAfterFireRun : List Action :=
  .call (.handleSSA 10 7) :: List.replicate 12 (.exec 0) ++
    .call (.handleSSP 10 7) :: List.replicate 15 (.exec 1) ++
    .fire 0 :: .call (.handleSSA 10 7) :: List.replicate 13 (.exec 3) ++
    .call (.handleSSP 10 7) :: List.replicate 15 (.exec 4)

/-- With no `AddEntry`, the interleaving `stopAfterFireRun` reaches a state in which the entry
registered for `(10, 7)` has two armed SST timers: timer 0, whose `performSST` has not returned,
and timer 1, pending. -/
theorem stop_after_fire_two_armed :
    ∃ s, run Config.default stopAfterFireRun Sys.init = some s ∧ Reachable Config.default s ∧
      s.world.registry (10, 7) = some 0 ∧ s.armed 0 0 = true ∧ s.armed 1 0 = true := by
  obtain ⟨s, hs, hr, h0, h1⟩ : ∃ s, run Config.default stopAfterFireRun Sys.init = some s ∧
      s.world.registry (10, 7) = some 0 ∧ s.armed 0 0 = true ∧ s.armed 1 0 = true :=
    ⟨_, rfl, rfl, rfl, rfl⟩
  exact ⟨s, hs, run_steps _ _ _ _ hs, hr, h0, h1⟩

end Sccp.Manager
