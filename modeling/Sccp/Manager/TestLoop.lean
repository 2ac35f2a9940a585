import Sccp.Manager.Testing
import Sccp.Manager.Locking

/-!
# SSN state manager: the SST loop never sends

`startSST` arms an entry's first test timer, and when it fires `performSST` waits on its own lock
(see `Deadlock`). So for every configuration, once an SSA and then an SSP for a new remote
subsystem have started its test and the first timer has fired, the callback waits in every
continuation of the run and no SST has been or is ever sent (`sst_loop_sends_nothing`): the loop
sends none of the `MaxTestRetries` SSTs.
-/
namespace Sccp.Manager

namespace World

variable {w : World} {key : Key}

/-- `HandleSSA` then `HandleSSP` for a key nothing is registered for, each run by itself: the new
entry, at `nextEntry`, is registered for the key, remote and Prohibited, with its test pending. -/
theorem Inv.ssa_ssp_new (cfg : Config) (hw : w.Inv) (hk : w.registry key = none) :
    ((Call.handleSSP key.1 key.2).alone cfg
        ((Call.handleSSA key.1 key.2).alone cfg w).1).1.registry key = some w.nextEntry ∧
      ((Call.handleSSP key.1 key.2).alone cfg
        ((Call.handleSSA key.1 key.2).alone cfg w).1).1.flags w.nextEntry =
          some (.prohibited, false) ∧
      ∃ t, (((Call.handleSSP key.1 key.2).alone cfg
        ((Call.handleSSA key.1 key.2).alone cfg w).1).1.testView w.nextEntry).Is (.pending t) := by
  have hg : w.getOrAdd cfg key = (w.addEntry cfg key false, w.nextEntry) := by
    unfold World.getOrAdd; rw [hk]
  have ha := hw.addEntry cfg key false
  have hp : w.nextEntry < (w.addEntry cfg key false).nextEntry := by simp
  have hra : (w.addEntry cfg key false).registry key = some w.nextEntry := by simp
  obtain ⟨hf₁, hi₁⟩ : ((w.addEntry cfg key false).ssaOn cfg w.nextEntry).1.flags w.nextEntry =
      some (.allowed, false) ∧
      (((w.addEntry cfg key false).ssaOn cfg w.nextEntry).1.testView w.nextEntry).Is .idle :=
    ha.ssaOn_free hp (hw.freshEntry _ le_rfl).2
      (show _ = some (.prohibited, false) by simp [flags, SSNEntry.new])
  have h₁ : ((Call.handleSSA key.1 key.2).alone cfg w).1 =
      ((w.addEntry cfg key false).ssaOn cfg w.nextEntry).1 := by
    simp only [Call.alone, Prod.mk.eta, hg]
  have hw₁ := h₁ ▸ (Call.alone_ok cfg hw (.handleSSA key.1 key.2)).inv
  have hr₁ : ((w.addEntry cfg key false).ssaOn cfg w.nextEntry).1.registry key =
      some w.nextEntry := by
    rw [(ha.ssaOn cfg hp).registry, hra]
  have h₂ : (Call.handleSSP key.1 key.2).alone cfg
      ((w.addEntry cfg key false).ssaOn cfg w.nextEntry).1 =
      ((w.addEntry cfg key false).ssaOn cfg w.nextEntry).1.sspOn cfg w.nextEntry := by
    simp only [Call.alone, Prod.mk.eta, World.getOrAdd, hr₁]
  rw [h₁, h₂, (hw₁.sspOn cfg (hw₁.registry key _ hr₁)).registry]
  exact ⟨hr₁, hw₁.sspOn_allowed hi₁.1 hf₁⟩

end World

/-- A pending timer fires in a sequential run: its callback, the next goroutine, takes the entry's
write lock and waits, and the registry and every entry's flags are as they were. -/
theorem SeqInv.fire_pending {s : Sys} (hs : SeqInv s) (cfg : Config) {p t : Nat}
    (hph : (s.world.testView p).Is (.pending t)) :
    ∃ s', s.seqStep cfg (.fire t) = some s' ∧ SeqInv s' ∧ s'.world.registry = s.world.registry ∧
      s'.world.flags = s.world.flags ∧ (s'.world.testView p).Is (.stuck t s.nextTask) := by
  obtain ⟨tm, ht, rfl, hpend⟩ := s.world.timersOf_eq_some hph.2.2.1
  obtain ⟨s', hs'⟩ : ∃ s', s.seqStep cfg (.fire t) = some s' :=
    ⟨_, by simp only [Sys.seqStep, World.fire, ht, hpend, if_true, Option.map_some']; rfl⟩
  obtain ⟨tm', k, ht', -, rfl⟩ := hs.seqStep_fire hs'
  cases ht.symm.trans ht'
  exact ⟨_, hs', hs.seqStep hs', rfl, rfl, (hs.world.fire ht hpend _).2.1⟩

/-- For every configuration, an SSA and then an SSP for the new remote `(10, 7)` start the test of
its entry 0, and the first timer fires: its callback, goroutine 2, is the one stuck on the entry. -/
theorem sst_loop_run (cfg : Config) :
    ∃ t s, seqRun cfg [.call (.handleSSA 10 7), .call (.handleSSP 10 7), .fire t] Sys.init = some s ∧
      SeqInv s ∧ s.world.registry (10, 7) = some 0 ∧ s.world.flags 0 = some (.prohibited, false) ∧
      (s.world.testView 0).Is (.stuck t 2) := by
  have hs₁ : SeqInv (Sys.init.runTask cfg ((Call.handleSSA 10 7).prog cfg)) := SeqInv.init.call _
  have hs₂ : SeqInv ((Sys.init.runTask cfg ((Call.handleSSA 10 7).prog cfg)).runTask cfg
      ((Call.handleSSP 10 7).prog cfg)) := hs₁.call _
  have hw₂ : ((Sys.init.runTask cfg ((Call.handleSSA 10 7).prog cfg)).runTask cfg
      ((Call.handleSSP 10 7).prog cfg)).world = ((Call.handleSSP 10 7).alone cfg
        ((Call.handleSSA 10 7).alone cfg World.init).1).1 := by
    rw [Sys.runTask_world, runAlone_call cfg _ hs₁.world.valid, Sys.runTask_world,
      runAlone_call cfg _ (show Sys.init.world.Valid from World.Inv.init.valid)]
    rfl
  obtain ⟨hr, hf, t, hph⟩ :=
    World.Inv.init.ssa_ssp_new cfg (show World.init.registry (10, 7) = none from rfl)
  rw [← hw₂] at hr hf hph
  obtain ⟨s, h₃, hs, hreg, hfl, hstuck⟩ := hs₂.fire_pending cfg hph
  simp only [Sys.runTask_nextTask] at hstuck
  have hrun : seqRun cfg [.call (.handleSSA 10 7), .call (.handleSSP 10 7), .fire t] Sys.init =
      some s := by
    simp only [seqRun, Sys.seqStep.eq_1, Option.some_bind, h₃]
  exact ⟨t, s, hrun, hs, (congrFun hreg _).trans hr, (congrFun hfl 0).trans hf, hstuck⟩

/-- For every configuration: an SSA and then an SSP for the new remote `(10, 7)` start the test of
its entry 0, and the first timer fires. Its callback, goroutine 2, holds the entry's write lock and
waits for the read lock `IsAllowed` asks for; in every continuation it still waits, and no SST has
been sent. -/
theorem sst_loop_sends_nothing (cfg : Config) :
    ∃ t s, seqRun cfg [.call (.handleSSA 10 7), .call (.handleSSP 10 7), .fire t] Sys.init = some s ∧
      s.world.registry (10, 7) = some 0 ∧ s.world.flags 0 = some (.prohibited, false) ∧
      (s.world.testView 0).Is (.stuck t 2) ∧
      ∀ s', Relation.ReflTransGen (Sys.Next cfg) s s' → s'.SelfWaiting 2 0 ∧ s'.world.sent = [] := by
  obtain ⟨t, s, hrun, hs, hreg, hfl, hstuck⟩ := sst_loop_run cfg
  refine ⟨t, s, hrun, hreg, hfl, hstuck, fun s' h => ⟨?_, ?_⟩⟩
  · exact Sys.selfWaiting_steps h (hs.stuck 0 t 2 hstuck)
  · exact (reachable_noSST ((seqRun_steps cfg _ _ _ hrun).trans h)).sent

end Sccp.Manager
