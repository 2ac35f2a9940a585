import Sccp.Manager.Timers
import Mathlib.Data.List.Chain

/-!
# SSN state manager: `OnStateChange` notifications

Each handler that changes an entry's `State` first checks the old one, under the read lock, and
then tells `OnStateChange` the new one. Run by themselves, the handlers therefore tell every
entry's changes in order: the states notified for an entry alternate, starting with Allowed,
and the entry's `State` is the last one notified, or Prohibited (`notifications_alternate`).

Per `(PointCode, SSN)` this fails: `AddEntry` replaces the registered entry by a new, Prohibited
one, and nobody is told (`addEntry_resets_state`). It fails for one entry too once handlers run
side by side: `IsProhibited` and `MarkAllowed` take the entry lock one after the other, so two
SSAs can both find the entry Prohibited and both notify Allowed (`concurrent_ssa_notifies_twice`).
-/
namespace Sccp.Manager

/-- `NewSSNStateManager`'s configuration once the user has set `OnStateChange`. -/
def Config.withStateChange : Config := { Config.default with onStateChange := true }

namespace World

variable (w : World)

/-- The states `OnStateChange` was told for entry `p`, in order. -/
def notifiedFor (p : Nat) : List SSNState := (w.notified.filter (·.entry == p)).map (·.state)

/-- The states `OnStateChange` was told for the entries made for `key`, in order. -/
def notifiedForKey (key : Key) : List SSNState :=
  (w.notified.filter (w.keyOf ·.entry == some key)).map (·.state)

@[simp] theorem notified_setState (p : Nat) (st : SSNState) : (w.setState p st).notified = w.notified :=
  rfl

@[simp] theorem notified_cancel (t : Nat) : (w.cancel t).notified = w.notified := by
  unfold cancel; split <;> (try split_ifs) <;> rfl

@[simp] theorem notified_stopTest (p : Nat) : (w.stopTest p).notified = w.notified := by
  unfold stopTest; split <;> simp

@[simp] theorem notified_startTest (cfg : Config) (p : Nat) :
    (w.startTest cfg p).notified = w.notified := by
  rw [startTest_eq]; split <;> simp

theorem notified_notifyIf (cfg : Config) (p : Nat) (st : SSNState) (r : StateChangeReason) :
    (w.notifyIf cfg p st r).notified =
      if cfg.onStateChange then w.notified ++ [⟨p, st, r⟩] else w.notified := by
  unfold notifyIf; split <;> rfl

@[simp] theorem notified_broadcastIf (cfg : Config) (b : BroadcastType) (p : Nat) :
    (w.broadcastIf cfg b p).notified = w.notified := by
  unfold broadcastIf; split <;> rfl

@[simp] theorem nextEntry_setState (p : Nat) (st : SSNState) :
    (w.setState p st).nextEntry = w.nextEntry := rfl

@[simp] theorem nextEntry_cancel (t : Nat) : (w.cancel t).nextEntry = w.nextEntry := by
  unfold cancel; split <;> (try split_ifs) <;> rfl

@[simp] theorem nextEntry_stopTest (p : Nat) : (w.stopTest p).nextEntry = w.nextEntry := by
  unfold stopTest; split <;> simp

@[simp] theorem nextEntry_startTest (cfg : Config) (p : Nat) :
    (w.startTest cfg p).nextEntry = w.nextEntry := by
  rw [startTest_eq]; split <;> simp

@[simp] theorem nextEntry_notifyIf (cfg : Config) (p : Nat) (st : SSNState) (r : StateChangeReason) :
    (w.notifyIf cfg p st r).nextEntry = w.nextEntry := by
  unfold notifyIf; split <;> rfl

@[simp] theorem nextEntry_broadcastIf (cfg : Config) (b : BroadcastType) (p : Nat) :
    (w.broadcastIf cfg b p).nextEntry = w.nextEntry := by
  unfold broadcastIf; split <;> rfl

theorem notifiedFor_of_notified {w' : World} {n : Notification} (hn : w'.notified = w.notified ++ [n])
    (q : Nat) : w'.notifiedFor q = if n.entry = q then w.notifiedFor q ++ [n.state] else w.notifiedFor q := by
  unfold notifiedFor
  rw [hn, List.filter_append]
  split_ifs with h <;> simp [h]

/-- What the notifications and the entries agree on, in every state of a sequential run with
`OnStateChange` set. -/
structure NotifyInv : Prop where
  entry : ∀ n ∈ w.notified, n.entry < w.nextEntry
  state : ∀ p f, w.flags p = some f → f.1 = (w.notifiedFor p).getLastD .prohibited
  alternate : ∀ p, List.Chain (· ≠ ·) .prohibited (w.notifiedFor p)

end World

private theorem chain_concat {α : Type} {R : α → α → Prop} {a b : α} :
    ∀ {l : List α}, List.Chain R a l → R (l.getLastD a) b → List.Chain R a (l ++ [b])
  | [], _, hb => List.chain_singleton.mpr hb
  | x :: l, h, hb => by
    rw [List.chain_cons] at h
    exact .cons h.1 (chain_concat h.2 (List.getLast_eq_getLastD x l _ ▸ hb))

namespace World.NotifyInv

variable {w w' : World}

theorem init : World.init.NotifyInv :=
  ⟨fun _ h => (by cases h), fun _ _ h => (by cases h), fun _ => .nil⟩

/-- A new entry is Prohibited and nobody was told anything about it. -/
theorem addEntry (h : w.NotifyInv) (cfg : Config) (key : Key) (isLocal : Bool) :
    (w.addEntry cfg key isLocal).NotifyInv := by
  have hnew : w.notifiedFor w.nextEntry = [] := by
    simp only [notifiedFor, List.map_eq_nil_iff, List.filter_eq_nil_iff, beq_iff_eq]
    exact fun n hn he => absurd (he ▸ h.entry n hn) (lt_irrefl _)
  refine ⟨fun n hn => (h.entry n hn).trans (Nat.lt_succ_self _), fun p f hf => ?_, h.alternate⟩
  by_cases hp : p = w.nextEntry
  · subst hp
    simp only [flags, addEntry_entries, Function.update_same, Option.map_some', Option.some.injEq] at hf
    have : (w.addEntry cfg key isLocal).notifiedFor w.nextEntry = [] := hnew
    rw [this, ← hf]
    rfl
  · simp only [flags, addEntry_entries, Function.update_noteq hp] at hf
    exact h.state p f hf

/-- An entry moves from `st₀` to another state `st` and `OnStateChange` is told so. -/
theorem transition (h : w.NotifyInv) {p : Nat} (hp : p < w.nextEntry) (st₀ st : SSNState)
    (r : StateChangeReason) (h₀ : (w.flags p).map Prod.fst = some st₀) (hne : st₀ ≠ st)
    (hf : ∀ q, w'.flags q = if q = p then (w.flags p).map (fun f => (st, f.2)) else w.flags q)
    (hn : w'.notified = w.notified ++ [⟨p, st, r⟩]) (hen : w'.nextEntry = w.nextEntry) :
    w'.NotifyInv := by
  have hfor := w.notifiedFor_of_notified hn
  obtain ⟨f₀, hf₀, rfl⟩ := Option.map_eq_some'.mp h₀
  have hlast := h.state p f₀ hf₀
  refine ⟨fun n hn' => ?_, fun q f hq => ?_, fun q => ?_⟩
  · rw [hn, List.mem_append, List.mem_singleton] at hn'
    rw [hen]
    rcases hn' with hn' | rfl
    · exact h.entry n hn'
    · exact hp
  · rw [hf q] at hq
    rw [hfor q]
    by_cases hqp : q = p
    · subst hqp
      rw [if_pos rfl, hf₀, Option.map_some', Option.some.injEq] at hq
      subst hq
      simp
    · rw [if_neg hqp] at hq
      rw [if_neg (Ne.symm hqp)]
      exact h.state q f hq
  · rw [hfor q]
    split_ifs with hqp
    · subst hqp
      exact chain_concat (h.alternate _) (hlast ▸ hne)
    · exact h.alternate q

theorem of_eq (h : w.NotifyInv) (hf : w'.flags = w.flags) (hn : w'.notified = w.notified)
    (hen : w'.nextEntry = w.nextEntry) : w'.NotifyInv := by
  have hfor : w'.notifiedFor = w.notifiedFor := by funext q; simp only [notifiedFor, hn]
  exact ⟨fun n hn' => hen ▸ h.entry n (hn ▸ hn'), fun p f hp => hfor ▸ h.state p f (hf ▸ hp),
    fun p => hfor ▸ h.alternate p⟩

variable (cfg : Config) (hc : cfg.onStateChange = true)
include hc

theorem ssaOn (h : w.NotifyInv) {p : Nat} (hp : p < w.nextEntry) : (w.ssaOn cfg p).1.NotifyInv := by
  unfold World.ssaOn
  split_ifs with hm hs
  · exact h.transition hp .prohibited .allowed .networkInitiated (by simpa [flags, Option.map_map] using hs)
      (by decide) (fun q => by simp only [flags_notifyIf, flags_stopTest, flags_setState])
      (by simp [notified_notifyIf, hc]) (by simp)
  all_goals exact h

theorem sspOn (h : w.NotifyInv) {p : Nat} (hp : p < w.nextEntry) : (w.sspOn cfg p).1.NotifyInv := by
  unfold World.sspOn
  split_ifs with hm hs hl
  · exact h.transition hp .allowed .prohibited .networkInitiated (by simpa [flags, Option.map_map] using hs)
      (by decide) (fun q => by simp only [flags_notifyIf, flags_setState])
      (by simp [notified_notifyIf, hc]) (by simp)
  · exact h.transition hp .allowed .prohibited .networkInitiated (by simpa [flags, Option.map_map] using hs)
      (by decide) (fun q => by simp only [flags_notifyIf, flags_startTest, flags_setState])
      (by simp [notified_notifyIf, hc]) (by simp)
  all_goals exact h

theorem uisOn (h : w.NotifyInv) {p : Nat} (hp : p < w.nextEntry) : (w.uisOn cfg p).1.NotifyInv := by
  unfold World.uisOn
  split_ifs with hl hm hs
  · exact h
  · exact h.transition hp .prohibited .allowed .userInitiated (by simpa [flags, Option.map_map] using hs)
      (by decide) (fun q => by simp only [flags_broadcastIf, flags_notifyIf, flags_setState])
      (by simp [notified_notifyIf, hc]) (by simp)
  all_goals exact h

theorem uosOn (h : w.NotifyInv) {p : Nat} (hp : p < w.nextEntry) : (w.uosOn cfg p).1.NotifyInv := by
  unfold World.uosOn
  split_ifs with hl hm hs
  · exact h
  · exact h.transition hp .allowed .prohibited .userInitiated (by simpa [flags, Option.map_map] using hs)
      (by decide)
      (fun q => by simp only [flags_broadcastIf, flags_notifyIf, flags_stopTest, flags_setState])
      (by simp [notified_notifyIf, hc]) (by simp)
  all_goals exact h

theorem alone (hw : w.Inv) (h : w.NotifyInv) (c : Call) : (c.alone cfg w).1.NotifyInv :=
  Call.alone_induction cfg World.NotifyInv (fun _ _ _ _ h => h.addEntry cfg _ _)
    (fun _ _ _ h hp => ⟨h.ssaOn cfg hc hp, h.sspOn cfg hc hp, h.uisOn cfg hc hp, h.uosOn cfg hc hp⟩)
    hw h c

end World.NotifyInv

/-- Along a sequential run with `OnStateChange` set, the notifications and the entries agree. -/
theorem SeqInv.notifyInv {cfg : Config} (hc : cfg.onStateChange = true) :
    ∀ {es : List Event} {s s' : Sys}, SeqInv s → s.world.NotifyInv →
      Manager.seqRun cfg es s = some s' → s'.world.NotifyInv
  | [], _, _, _, hn, h => by cases h; exact hn
  | e :: _, s, _, hs, hn, h => by
    simp only [Manager.seqRun, Option.bind_eq_some] at h
    obtain ⟨s₁, h₁, h₂⟩ := h
    refine SeqInv.notifyInv hc (hs.seqStep h₁) ?_ h₂
    cases e with
    | call c =>
      cases h₁
      rw [Sys.runTask_world, runAlone_call cfg _ hs.world.valid]
      exact hn.alone cfg hc hs.world c
    | fire t =>
      simp only [Sys.seqStep, Option.map_eq_some'] at h₁
      obtain ⟨r, hr, rfl⟩ := h₁
      rw [Sys.runTask_world, runAlone_sstCallback]
      unfold World.fire at hr
      split at hr
      · split_ifs at hr
        cases hr
        unfold World.callbackOn
        split_ifs <;> exact hn.of_eq rfl rfl rfl
      · cases hr

/-- In a sequential run with `OnStateChange` set, the states notified for an entry alternate,
starting with Allowed, and the entry's `State` is the last one notified, or Prohibited. -/
theorem notifications_alternate {cfg : Config} (hc : cfg.onStateChange = true) {s : Sys}
    (h : SeqReachable cfg s) (p : Nat) :
    List.Chain (· ≠ ·) .prohibited (s.world.notifiedFor p) ∧
      ∀ e, s.world.entries p = some e → e.state = (s.world.notifiedFor p).getLastD .prohibited := by
  obtain ⟨es, h⟩ := h
  have hn := SeqInv.notifyInv hc SeqInv.init World.NotifyInv.init h
  exact ⟨hn.alternate p, fun e he => hn.state p (e.state, e.isLocal) (by simp [World.flags, he])⟩

/-- SSP for `(10, 7)` registers entry 0, Prohibited. Two SSAs for it then run side by side: each
releases `IsProhibited`'s read lock, having found the entry Prohibited, before the other's
`MarkAllowed` takes the write lock. -/
def doubleSSARun : List Action :=
  .call (.handleSSP 10 7) :: List.replicate 5 (.exec 0) ++
    .call (.handleSSA 10 7) :: .call (.handleSSA 10 7) :: List.replicate 4 (.exec 1) ++
    List.replicate 4 (.exec 2) ++ List.replicate 8 (.exec 1) ++ List.replicate 8 (.exec 2)

/-- With no `AddEntry`, the interleaving `doubleSSARun` ends with every call returned and
Allowed notified twice in a row for the entry registered for `(10, 7)`. -/
theorem concurrent_ssa_notifies_twice :
    ∃ s, run Config.withStateChange doubleSSARun Sys.init = some s ∧
      Reachable Config.withStateChange s ∧ s.world.registry (10, 7) = some 0 ∧
      s.world.notifiedFor 0 = [.allowed, .allowed] ∧
      s.returned 0 = true ∧ s.returned 1 = true ∧ s.returned 2 = true := by
  obtain ⟨s, hs, hr, hn, h0, h1, h2⟩ : ∃ s, run Config.withStateChange doubleSSARun Sys.init = some s ∧
      s.world.registry (10, 7) = some 0 ∧ s.world.notifiedFor 0 = [.allowed, .allowed] ∧
      s.returned 0 = true ∧ s.returned 1 = true ∧ s.returned 2 = true :=
    ⟨_, rfl, rfl, rfl, rfl, rfl, rfl⟩
  exact ⟨s, hs, run_steps _ _ _ _ hs, hr, hn, h0, h1, h2⟩

/-- SSA for `(10, 7)` makes entry 0 Allowed and says so; `AddEntry(10, 7, false)` then
registers the new, Prohibited entry 1, and nobody is told. -/
def resetRun : List Event := [.call (.handleSSA 10 7), .call (.addEntry 10 7 false)]

theorem addEntry_resets_state :
    ∃ s, seqRun Config.withStateChange resetRun Sys.init = some s ∧
      s.world.notifiedForKey (10, 7) = [.allowed] ∧
      ∃ p e, s.world.registry (10, 7) = some p ∧ s.world.entries p = some e ∧
        e.state = .prohibited := by
  have hc : (seqRun Config.withStateChange resetRun Sys.init).map (fun s =>
      s.world.notifiedForKey (10, 7) == [.allowed] &&
        ((s.world.registry (10, 7)).bind s.world.entries).map (·.state) == some .prohibited) =
      some true := by decide
  cases hs : seqRun Config.withStateChange resetRun Sys.init with
  | none => simp [hs] at hc
  | some s =>
    simp only [hs, Option.map_some', Option.some.injEq, Bool.and_eq_true, beq_iff_eq,
      Option.map_eq_some', Option.bind_eq_some] at hc
    obtain ⟨h1, e, ⟨p, hp, he⟩, hst⟩ := hc
    exact ⟨s, rfl, h1, p, e, hp, he, hst⟩

end Sccp.Manager
