import Sccp.Manager.Phase
import Sccp.Manager.Deadlock

/-!
# SSN state manager: what a sequential run keeps

`World.Inv` is what the memory satisfies in every state of a sequential run: entries and timers
are allocated past every existing one, the registry is injective, and every entry's test shows
one `TestPhase`, the entry being remote and Prohibited unless the test is idle. `SeqInv` adds
that the callback of a stuck test waits on its own lock.

Each handler run by itself is a `HandlerStep` at the entry it looked up: it changes nothing, or
changes that entry only and leaves its test idle or pending. `SeqInv.seqStep` proves that every
call and every timer expiry of a sequential run keeps `SeqInv`.
-/
namespace Sccp.Manager

namespace World

variable (w : World)

/-- The state and locality of each entry. -/
def flags (p : Nat) : Option (SSNState × Bool) := (w.entries p).map fun e => (e.state, e.isLocal)

@[simp] theorem flags_modifyEntry {p : Nat} {f : SSNEntry → SSNEntry}
    (hs : ∀ e, (f e).state = e.state) (hl : ∀ e, (f e).isLocal = e.isLocal) :
    (w.modifyEntry p f).flags = w.flags := by
  funext q
  by_cases hq : q = p
  · subst hq; cases h : w.entries q <;> simp [flags, h, hs, hl]
  · simp [flags, Function.update_noteq hq]

theorem flags_setState (p : Nat) (st : SSNState) (q : Nat) :
    (w.setState p st).flags q = if q = p then (w.flags p).map fun f => (st, f.2) else w.flags q := by
  unfold flags setState
  by_cases hq : q = p
  · subst hq; simp only [modifyEntry_entries, Function.update_same, if_pos rfl, Option.map_map]; rfl
  · simp [Function.update_noteq hq, hq]

@[simp] theorem flags_cancel (t : Nat) : (w.cancel t).flags = w.flags := by
  funext p; simp only [flags, cancel_entries]

@[simp] theorem flags_afterFunc (d : Int) (p : Nat) : (w.afterFunc d p).flags = w.flags := rfl

@[simp] theorem flags_notifyIf (cfg : Config) (p : Nat) (st : SSNState) (r : StateChangeReason) :
    (w.notifyIf cfg p st r).flags = w.flags := by
  unfold notifyIf; split <;> rfl

@[simp] theorem flags_broadcastIf (cfg : Config) (b : BroadcastType) (p : Nat) :
    (w.broadcastIf cfg b p).flags = w.flags := by
  unfold broadcastIf; split <;> rfl

@[simp] theorem flags_stopTest (p : Nat) : (w.stopTest p).flags = w.flags := by
  unfold stopTest
  split <;> simp only [flags_modifyEntry, flags_cancel, implies_true]

@[simp] theorem flags_startTest (cfg : Config) (p : Nat) : (w.startTest cfg p).flags = w.flags := by
  rw [startTest_eq]
  split <;> simp only [flags_modifyEntry, flags_afterFunc, flags_cancel, implies_true]

theorem flags_eq_some {p : Nat} {f : SSNState × Bool} (h : w.flags p = some f) :
    ∃ e, w.entries p = some e ∧ e.state = f.1 ∧ e.isLocal = f.2 := by
  simp only [flags, Option.map_eq_some'] at h
  obtain ⟨e, he, rfl⟩ := h
  exact ⟨e, he, rfl, rfl⟩

/-- What the memory satisfies in every state of a sequential run. -/
structure Inv : Prop where
  freshEntry : ∀ p, w.nextEntry ≤ p → w.entries p = none ∧ w.mutex p = .free
  alloc : ∀ p, p < w.nextEntry → (w.entries p).isSome
  registry : ∀ key p, w.registry key = some p → p < w.nextEntry
  registryInj : ∀ key key' p, w.registry key = some p → w.registry key' = some p → key = key'
  freshTimer : ∀ t, w.nextTimer ≤ t → w.timers t = none
  timerEntry : ∀ t tm, w.timers t = some tm → tm.entry < w.nextEntry
  phase : ∀ p e, w.entries p = some e → ∃ ph, (w.testView p).Is ph ∧
    (ph ≠ .idle → e.isLocal = false ∧ e.state = .prohibited)

/-- What a handler running by itself does around entry `p`: nothing, or a change at `p` after
which the entry's test is idle, or pending with the entry remote and Prohibited. -/
def HandlerStep (p : Nat) (w' : World) : Prop :=
  w' = w ∨ (Local p w w' ∧ ∃ e, w'.entries p = some e ∧ ((w'.testView p).Is .idle ∨
    ∃ t, (w'.testView p).Is (.pending t) ∧ e.isLocal = false ∧ e.state = .prohibited))

variable {w}

namespace HandlerStep

variable {p : Nat} {w' : World}

theorem mutex (h : w.HandlerStep p w') : w'.mutex = w.mutex := by
  rcases h with rfl | ⟨hl, -⟩
  · rfl
  · exact hl.mutex

/-- A handler never leaves a test stuck that was not. -/
theorem stuck (h : w.HandlerStep p w') {q t j : Nat} (hq : (w'.testView q).Is (.stuck t j)) :
    (w.testView q).Is (.stuck t j) := by
  rcases h with rfl | ⟨hl, e, -, hph⟩
  · exact hq
  · by_cases hqp : q = p
    · subst hqp
      rcases hph with hi | ⟨t', hp, -⟩
      · cases hq.unique hi
      · cases hq.unique hp
    · rwa [← hl.testView hqp]

end HandlerStep

namespace Inv

theorem init : World.init.Inv where
  freshEntry _ _ := ⟨rfl, rfl⟩
  alloc _ h := absurd h (Nat.not_lt_zero _)
  registry _ _ h := by cases h
  registryInj _ _ _ h := by cases h
  freshTimer _ _ := rfl
  timerEntry _ _ h := by cases h
  phase _ _ h := by cases h

theorem phase_of_lt (h : w.Inv) {p : Nat} (hp : p < w.nextEntry) :
    ∃ e ph, w.entries p = some e ∧ (w.testView p).Is ph ∧
      (ph ≠ .idle → e.isLocal = false ∧ e.state = .prohibited) := by
  obtain ⟨e, he⟩ := Option.isSome_iff_exists.mp (h.alloc p hp)
  obtain ⟨ph, hph⟩ := h.phase p e he
  exact ⟨e, ph, he, hph⟩

/-- The memory a sequential run reaches is one the handlers' programs may run on. -/
theorem valid (h : w.Inv) : w.Valid where
  registry key p hk := h.alloc p (h.registry key p hk)
  fresh := h.freshEntry
  readers p := by
    by_cases hp : p < w.nextEntry
    · obtain ⟨e, ph, -, hph, -⟩ := h.phase_of_lt hp
      exact hph.readers
    · rw [(h.freshEntry p (Nat.le_of_not_lt hp)).2]; rfl
  timers p e t he ht := by
    obtain ⟨ph, hph, -⟩ := h.phase p e he
    obtain ⟨st, hst⟩ := hph.testTimer (t := t) (by simp [testTimerOf, he, ht])
    obtain ⟨tm, htm, -⟩ := w.timersOf_eq_some hst
    simp [htm]

/-- A new entry's test is idle. -/
theorem addEntry (h : w.Inv) (cfg : Config) (key : Key) (isLocal : Bool) :
    (w.addEntry cfg key isLocal).Inv where
  freshEntry p hp := by
    simp only [addEntry_nextEntry] at hp
    have := h.freshEntry p (by omega)
    simp [Function.update_noteq (show p ≠ w.nextEntry by omega), this]
  alloc p hp := by
    simp only [addEntry_nextEntry] at hp
    by_cases hpn : p = w.nextEntry
    · subst hpn; simp
    · simpa [Function.update_noteq hpn] using h.alloc p (by omega)
  registry k p hk := by
    simp only [addEntry_registry, Function.update_apply] at hk
    split_ifs at hk
    · cases hk; simp
    · simp only [addEntry_nextEntry]; exact (h.registry k p hk).trans (Nat.lt_succ_self _)
  registryInj k k' p hk hk' := by
    simp only [addEntry_registry, Function.update_apply] at hk hk'
    split_ifs at hk hk' with h1 h2 h2
    · exact h1.trans h2.symm
    · cases hk; exact absurd (h.registry k' _ hk') (lt_irrefl _)
    · cases hk'; exact absurd (h.registry k _ hk) (lt_irrefl _)
    · exact h.registryInj k k' p hk hk'
  freshTimer := h.freshTimer
  timerEntry t tm ht := (h.timerEntry t tm ht).trans (Nat.lt_succ_self _)
  phase p e he := by
    by_cases hpn : p = w.nextEntry
    · subst hpn
      refine ⟨.idle, ⟨(h.freshEntry _ le_rfl).2, ?_, fun t st hst _ => ?_⟩, fun h => absurd rfl h⟩
      · simp [testTimerOf, SSNEntry.new]
      · obtain ⟨tm, htm, hte, -⟩ := World.timersOf_eq_some _ hst
        exact absurd (hte ▸ h.timerEntry t tm htm) (lt_irrefl _)
    · simp only [addEntry_entries, Function.update_noteq hpn] at he
      obtain ⟨ph, hph, hc⟩ := h.phase p e he
      refine ⟨ph, ?_, hc⟩
      simpa [testView, testTimerOf, timersOf, Function.update_noteq hpn] using hph

/-- A new entry's test is idle, and the entries before it keep their views. -/
theorem addEntry_testView (h : w.Inv) (cfg : Config) (key : Key) (isLocal : Bool) :
    ((w.addEntry cfg key isLocal).testView w.nextEntry).Is .idle ∧
      ∀ p, p < w.nextEntry → (w.addEntry cfg key isLocal).testView p = w.testView p := by
  refine ⟨⟨(h.freshEntry _ le_rfl).2, by simp [testTimerOf, SSNEntry.new], fun t st hst _ => ?_⟩,
    fun p hp => ?_⟩
  · obtain ⟨tm, htm, hte, -⟩ := World.timersOf_eq_some _ hst
    exact absurd (hte ▸ h.timerEntry t tm htm) (lt_irrefl _)
  · simp [testView, testTimerOf, timersOf, Function.update_noteq (Nat.ne_of_lt hp)]

theorem getOrAdd (h : w.Inv) (cfg : Config) (key : Key) :
    (w.getOrAdd cfg key).1.Inv ∧ (w.getOrAdd cfg key).2 < (w.getOrAdd cfg key).1.nextEntry := by
  unfold World.getOrAdd
  split
  · next p hp => exact ⟨h, h.registry key p hp⟩
  · exact ⟨h.addEntry cfg key false, Nat.lt_succ_self _⟩

/-- A handler's change at one entry keeps the invariant. -/
theorem handlerStep (h : w.Inv) {p : Nat} (hp : p < w.nextEntry) {w' : World}
    (hs : w.HandlerStep p w') : w'.Inv := by
  rcases hs with rfl | ⟨hl, e', he', hph⟩
  · exact h
  refine ⟨fun q hq => ?_, fun q hq => ?_, fun k q hk => ?_, fun k k' q hk hk' => ?_,
    hl.fresh h.freshTimer, fun t tm ht => ?_, fun q e he => ?_⟩
  · rw [hl.nextEntry] at hq
    rw [hl.entries q (by omega), hl.mutex]
    exact h.freshEntry q hq
  · rw [hl.nextEntry] at hq
    by_cases hqp : q = p
    · subst hqp; rw [hl.isSome]; exact h.alloc q hq
    · rw [hl.entries q hqp]; exact h.alloc q hq
  · rw [hl.registry] at hk; rw [hl.nextEntry]; exact h.registry k q hk
  · rw [hl.registry] at hk hk'; exact h.registryInj k k' q hk hk'
  · rw [hl.nextEntry]
    rcases hl.timerEntry t tm ht with he | ⟨tm₀, ht₀, he⟩
    · exact he ▸ hp
    · exact he ▸ h.timerEntry t tm₀ ht₀
  · by_cases hqp : q = p
    · subst hqp
      rw [he'] at he
      cases he
      rcases hph with hi | ⟨t, hpd, hl', hs'⟩
      · exact ⟨.idle, hi, fun h => absurd rfl h⟩
      · exact ⟨.pending t, hpd, fun _ => ⟨hl', hs'⟩⟩
    · rw [hl.entries q hqp] at he
      rw [hl.testView hqp]
      exact h.phase q e he

/-- A pending timer fires and its callback, goroutine `j`, takes the entry's write lock: the
entry's test is stuck, and no other entry's view changes. -/
theorem fire (h : w.Inv) {t : Nat} {tm : Timer} (ht : w.timers t = some tm)
    (hp : tm.status = .pending) (j : Nat) :
    ((w.setTimer t { tm with status := .fired j }).setMutex tm.entry ⟨some j, []⟩).Inv ∧
      (((w.setTimer t { tm with status := .fired j }).setMutex tm.entry ⟨some j, []⟩).testView
        tm.entry).Is (.stuck t j) ∧
      ∀ q, q ≠ tm.entry →
        ((w.setTimer t { tm with status := .fired j }).setMutex tm.entry ⟨some j, []⟩).testView q =
          w.testView q := by
  have hlt : tm.entry < w.nextEntry := h.timerEntry t tm ht
  have htl : t < w.nextTimer := Nat.lt_of_not_le fun h' => by simp [h.freshTimer t h'] at ht
  obtain ⟨e, ph, he, hph, hc⟩ := h.phase_of_lt hlt
  have hpend : ph = .pending t := hph.eq_pending (by simpa [hp] using w.timersOf_of_timers ht rfl)
  subst hpend
  obtain ⟨hm, htt, -, hos⟩ := hph
  have other : ∀ q, q ≠ tm.entry →
      ((w.setTimer t { tm with status := .fired j }).setMutex tm.entry ⟨some j, []⟩).testView q =
        w.testView q := fun q hq => by
    have hn : w.timersOf q t = none := w.timersOf_of_ne ht (Ne.symm hq)
    simp only [testView, setMutex_mutex, Function.update_noteq hq, setTimer_mutex,
      testTimerOf_setMutex, testTimerOf_setTimer, timersOf_setMutex, timersOf_setTimer,
      if_neg (Ne.symm hq)]
    rw [← hn, Function.update_eq_self]
  have stuck : (((w.setTimer t { tm with status := .fired j }).setMutex tm.entry ⟨some j, []⟩).testView
      tm.entry).Is (.stuck t j) := by
    refine ⟨by simp, htt, by simp [timersOf_setTimer], fun t' st h' ht' => ?_⟩
    have hne : t' ≠ t := fun he => ht' (congrArg some he)
    simp only [testView_timers, timersOf_setMutex, timersOf_setTimer, Function.update_noteq hne] at h'
    exact hos t' st h' ht'
  refine ⟨⟨fun q hq => ?_, h.alloc, h.registry, h.registryInj, fun t' ht' => ?_, fun t' tm' ht' => ?_,
    fun q e' he' => ?_⟩, stuck, other⟩
  · simp only [setMutex_nextEntry, setTimer_nextEntry] at hq
    have hq' : q ≠ tm.entry := by omega
    simpa [Function.update_noteq hq'] using h.freshEntry q hq
  · simp only [setMutex_nextTimer, setTimer_nextTimer] at ht'
    have : t' ≠ t := by omega
    simpa [Function.update_noteq this] using h.freshTimer t' ht'
  · by_cases he' : t' = t
    · subst he'; simp at ht'; rw [← ht']; exact hlt
    · simp [Function.update_noteq he'] at ht'; exact h.timerEntry t' tm' ht'
  · by_cases hq : q = tm.entry
    · subst hq
      simp only [setMutex_entries, setTimer_entries, he, Option.some.injEq] at he'
      subst he'
      exact ⟨_, stuck, fun _ => hc (by simp)⟩
    · rw [other q hq]
      exact h.phase q e' (by simpa using he')

variable (cfg : Config)

theorem ssaOn (h : w.Inv) {p : Nat} (hp : p < w.nextEntry) : w.HandlerStep p (w.ssaOn cfg p).1 := by
  unfold World.ssaOn
  split_ifs with hm hs
  · obtain ⟨e, ph, he, hph, -⟩ := h.phase_of_lt hp
    have hst := stopTest_spec (p := p) (w := w.setState p .allowed)
      (by rw [testView_setState]; exact hph.of_free hm)
    have hl := ((Local.setState (p := p) (w := w) .allowed).trans hst.1).trans
      (Local.notifyIf cfg p .allowed .networkInitiated)
    obtain ⟨e', he'⟩ := Option.isSome_iff_exists.mp (hl.isSome.trans (by simp [he]))
    exact .inr ⟨hl, e', he', .inl (by simpa using hst.2)⟩
  all_goals exact .inl rfl

theorem sspOn (h : w.Inv) {p : Nat} (hp : p < w.nextEntry) : w.HandlerStep p (w.sspOn cfg p).1 := by
  unfold World.sspOn
  split_ifs with hm hs hl
  · obtain ⟨e, ph, he, hph, hc⟩ := h.phase_of_lt hp
    have hidle : (w.testView p).Is .idle := by
      have : ph = .idle := by
        by_contra hne
        have := (hc hne).2
        simp [he, this] at hs
      exact this ▸ hph
    have hl' := (Local.setState (p := p) (w := w) .prohibited).trans
      (Local.notifyIf cfg p .prohibited .networkInitiated)
    obtain ⟨e', he'⟩ := Option.isSome_iff_exists.mp (hl'.isSome.trans (by simp [he]))
    exact .inr ⟨hl', e', he', .inl (by simpa using hidle)⟩
  · obtain ⟨e, ph, he, hph, hc⟩ := h.phase_of_lt hp
    have hst := startTest_spec cfg (p := p) (w := w.setState p .prohibited)
      (by rw [testView_setState]; exact hph.of_free hm) (by simp [setState, he])
      h.freshTimer
    have hl' := ((Local.setState (p := p) (w := w) .prohibited).trans hst.1).trans
      (Local.notifyIf cfg p .prohibited .networkInitiated)
    have hf : ((((w.setState p .prohibited).startTest cfg p).notifyIf cfg p .prohibited
        .networkInitiated)).flags p = some (.prohibited, false) := by
      simp only [flags_notifyIf, flags_startTest, flags_setState, if_pos rfl]
      simp only [Option.map_eq_some'] at hl
      cases hle : e.isLocal
      · simp [flags, he, hle]
      · simp [he, hle] at hl
    obtain ⟨e', he', hs', hl''⟩ := flags_eq_some _ hf
    exact .inr ⟨hl', e', he', .inr ⟨_, by simpa using hst.2, hl'', hs'⟩⟩
  all_goals exact .inl rfl

theorem uisOn (h : w.Inv) {p : Nat} (hp : p < w.nextEntry) : w.HandlerStep p (w.uisOn cfg p).1 := by
  unfold World.uisOn
  split_ifs with hl hm hs
  · exact .inl rfl
  · obtain ⟨e, ph, he, hph, hc⟩ := h.phase_of_lt hp
    have hidle : (w.testView p).Is .idle := by
      have : ph = .idle := by
        by_contra hne
        have := (hc hne).1
        simp [he, this] at hl
      exact this ▸ hph
    have hl' := ((Local.setState (p := p) (w := w) .allowed).trans
      (Local.notifyIf cfg p .allowed .userInitiated)).trans (Local.broadcastIf cfg .ssa p)
    obtain ⟨e', he'⟩ := Option.isSome_iff_exists.mp (hl'.isSome.trans (by simp [he]))
    exact .inr ⟨hl', e', he', .inl (by simpa using hidle)⟩
  all_goals exact .inl rfl

theorem uosOn (h : w.Inv) {p : Nat} (hp : p < w.nextEntry) : w.HandlerStep p (w.uosOn cfg p).1 := by
  unfold World.uosOn
  split_ifs with hl hm hs
  · exact .inl rfl
  · obtain ⟨e, ph, he, hph, -⟩ := h.phase_of_lt hp
    have hst := stopTest_spec (p := p) (w := w.setState p .prohibited)
      (by rw [testView_setState]; exact hph.of_free hm)
    have hl' := (((Local.setState (p := p) (w := w) .prohibited).trans hst.1).trans
      (Local.notifyIf cfg p .prohibited .userInitiated)).trans (Local.broadcastIf cfg .ssp p)
    obtain ⟨e', he'⟩ := Option.isSome_iff_exists.mp (hl'.isSome.trans (by simp [he]))
    exact .inr ⟨hl', e', he', .inl (by simpa using hst.2)⟩
  all_goals exact .inl rfl

end Inv

end World

/-- What a call run by itself does to the memory: it keeps the invariant and every mutex, and
leaves no test stuck that was not. -/
structure CallOk (w w' : World) : Prop where
  inv : w'.Inv
  mutex : w'.mutex = w.mutex
  stuck : ∀ q t j, (w'.testView q).Is (.stuck t j) → (w.testView q).Is (.stuck t j)

namespace CallOk

variable {w : World}

theorem refl (h : w.Inv) : CallOk w w := ⟨h, rfl, fun _ _ _ => id⟩

theorem trans {w₁ w₂ : World} (h₁ : CallOk w w₁) (h₂ : CallOk w₁ w₂) : CallOk w w₂ :=
  ⟨h₂.inv, h₂.mutex.trans h₁.mutex, fun q t j hq => h₁.stuck q t j (h₂.stuck q t j hq)⟩

theorem handlerStep {w' : World} {p : Nat} (h : w.Inv) (hp : p < w.nextEntry)
    (hs : w.HandlerStep p w') : CallOk w w' :=
  ⟨h.handlerStep hp hs, hs.mutex, fun _ _ _ hq => hs.stuck hq⟩

theorem addEntry (h : w.Inv) (cfg : Config) (key : Key) (isLocal : Bool) :
    CallOk w (w.addEntry cfg key isLocal) where
  inv := h.addEntry cfg key isLocal
  mutex := rfl
  stuck q t j hq := by
    by_cases hqn : q = w.nextEntry
    · subst hqn
      have := (h.freshEntry _ le_rfl).2
      simp [TestView.Is, World.testView_mutex, this, RWMutex.free] at hq
    · simpa [World.testView, World.testTimerOf, World.timersOf, Function.update_noteq hqn] using hq

end CallOk

theorem World.sstOn_fst (w : World) (p : Nat) : (w.sstOn p).1 = w := by
  unfold World.sstOn; split_ifs <;> rfl

/-- A property of the memory that `AddEntry` keeps, and that each handler keeps on the entry it
looked up, is kept by every call run by itself. -/
theorem Call.alone_induction (cfg : Config) (P : World → Prop)
    (add : ∀ w key isLocal, w.Inv → P w → P (w.addEntry cfg key isLocal))
    (handler : ∀ w p, w.Inv → P w → p < w.nextEntry →
      P (w.ssaOn cfg p).1 ∧ P (w.sspOn cfg p).1 ∧ P (w.uisOn cfg p).1 ∧ P (w.uosOn cfg p).1)
    {w : World} (hw : w.Inv) (h : P w) (c : Call) : P (c.alone cfg w).1 := by
  have onKey : ∀ k : Key, (w.getOrAdd cfg k).1.Inv ∧
      (w.getOrAdd cfg k).2 < (w.getOrAdd cfg k).1.nextEntry ∧ P (w.getOrAdd cfg k).1 := by
    intro k
    refine ⟨(hw.getOrAdd cfg k).1, (hw.getOrAdd cfg k).2, ?_⟩
    unfold World.getOrAdd
    split
    · exact h
    · exact add w k false hw h
  have found : ∀ (pc : UInt16) (ssn : UInt8) (f : World → Nat → World × Option Reply),
      (∀ p, p < w.nextEntry → P (f w p).1) → P (w.found pc ssn (f w)).1 := by
    intro pc ssn f hf
    unfold World.found
    split
    · next p hp => exact hf p (hw.registry _ p hp)
    · exact h
  have ssa := fun k => let ⟨h₁, hp, hP⟩ := onKey k; (handler _ _ h₁ hP hp).1
  have ssp := fun k => let ⟨h₁, hp, hP⟩ := onKey k; (handler _ _ h₁ hP hp).2.1
  have sst : ∀ k : Key, P ((w.getOrAdd cfg k).1.sstOn (w.getOrAdd cfg k).2).1 := fun k => by
    rw [World.sstOn_fst]; exact (onKey k).2.2
  cases c with
  | addEntry pc ssn isLocal => exact add w _ isLocal hw h
  | handleUserInService pc ssn => exact found pc ssn _ fun p hp => (handler w p hw h hp).2.2.1
  | handleUserOutOfService pc ssn => exact found pc ssn _ fun p hp => (handler w p hw h hp).2.2.2
  | handleSSA pc ssn => exact ssa _
  | handleSSP pc ssn => exact ssp _
  | handleSST pc ssn => exact sst _
  | processSCMGMessage m =>
    simp only [Call.alone]
    split_ifs
    · exact ssa _
    · exact ssp _
    · exact sst _
    · exact h

/-- Every call run by itself from a memory satisfying the invariant. -/
theorem Call.alone_ok (cfg : Config) {w : World} (h : w.Inv) (c : Call) :
    CallOk w (c.alone cfg w).1 :=
  Call.alone_induction cfg (CallOk w) (fun _ _ _ h₁ hP => hP.trans (CallOk.addEntry h₁ cfg _ _))
    (fun _ _ h₁ hP hp => ⟨hP.trans (CallOk.handlerStep h₁ hp (h₁.ssaOn cfg hp)),
      hP.trans (CallOk.handlerStep h₁ hp (h₁.sspOn cfg hp)),
      hP.trans (CallOk.handlerStep h₁ hp (h₁.uisOn cfg hp)),
      hP.trans (CallOk.handlerStep h₁ hp (h₁.uosOn cfg hp))⟩) h (CallOk.refl h) c

section Seq

variable (cfg : Config)

theorem Sys.runTask_world (s : Sys) (prog : Prog Reply) :
    (s.runTask cfg prog).world = (runAlone cfg s.nextTask s.world prog).result.1 := by
  unfold Sys.runTask; cases runAlone cfg s.nextTask s.world prog <;> rfl

theorem Sys.runTask_nextTask (s : Sys) (prog : Prog Reply) :
    (s.runTask cfg prog).nextTask = s.nextTask + 1 := by
  unfold Sys.runTask; cases runAlone cfg s.nextTask s.world prog <;> rfl

theorem Sys.runTask_tasks_of_ne (s : Sys) (prog : Prog Reply) {j : Nat} (hj : j ≠ s.nextTask) :
    (s.runTask cfg prog).tasks j = s.tasks j := by
  unfold Sys.runTask
  cases runAlone cfg s.nextTask s.world prog <;> exact Function.update_noteq hj _ _

/-- The timer callback run by itself on an entry it can lock takes the lock and then waits on
it. -/
theorem runAlone_sstCallback_lock {w : World} {p j : Nat} (hc : w.canLock p) :
    ∃ k, runAlone cfg j w (sstCallback cfg p) = .blocked (w.setMutex p ⟨some j, []⟩) (.op (.rLock p) k) := by
  obtain ⟨k, hk⟩ := sstCallback_eq cfg p
  refine ⟨k, ?_⟩
  rw [hk]
  simp [runAlone, World.perform, hc, World.canRLock]

end Seq

/-- What every state of a sequential run satisfies. -/
structure SeqInv (s : Sys) : Prop where
  world : s.world.Inv
  freshTask : ∀ j, s.nextTask ≤ j → s.tasks j = none
  stuck : ∀ p t j, (s.world.testView p).Is (.stuck t j) → s.SelfWaiting j p

namespace SeqInv

variable {cfg : Config} {s s' : Sys}

theorem init : SeqInv Sys.init :=
  ⟨World.Inv.init, fun _ _ => rfl, fun _ _ _ h => by cases h.1⟩

theorem call (hs : SeqInv s) (c : Call) : SeqInv (s.runTask cfg (c.prog cfg)) := by
  have hw : (s.runTask cfg (c.prog cfg)).world = (c.alone cfg s.world).1 := by
    rw [Sys.runTask_world, runAlone_call cfg _ hs.world.valid]
  have hok := Call.alone_ok cfg hs.world c
  refine ⟨hw ▸ hok.inv, fun j hj => ?_, fun p t j hp => ?_⟩
  · rw [Sys.runTask_nextTask] at hj
    rw [Sys.runTask_tasks_of_ne cfg _ _ (by omega)]
    exact hs.freshTask j (by omega)
  · rw [hw] at hp
    obtain ⟨hreq, hwr, hlt⟩ := hs.stuck p t j (hok.stuck p t j hp)
    refine ⟨?_, ?_, ?_⟩
    · rw [Sys.lockRequest, Sys.runTask_tasks_of_ne cfg _ _ (Nat.ne_of_lt hlt)]; exact hreq
    · rw [hw, hok.mutex]; exact hwr
    · rw [Sys.runTask_nextTask]; omega

/-- A timer expiry in a sequential run: the pending timer fires, and its callback, goroutine
`nextTask`, takes the entry's write lock and then waits on it. -/
theorem seqStep_fire (hs : SeqInv s) {t : Nat} (h : s.seqStep cfg (.fire t) = some s') :
    ∃ tm k, s.world.timers t = some tm ∧ tm.status = .pending ∧
      s' = ⟨(s.world.setTimer t { tm with status := .fired s.nextTask }).setMutex tm.entry
        ⟨some s.nextTask, []⟩, Function.update s.tasks s.nextTask (some (.op (.rLock tm.entry) k)),
        s.nextTask + 1⟩ := by
  simp only [Sys.seqStep, World.fire, Option.map_eq_some'] at h
  obtain ⟨r, hr, rfl⟩ := h
  split at hr
  · next tm ht =>
    split_ifs at hr with hpend
    cases hr
    have hcan : (s.world.setTimer t { tm with status := .fired s.nextTask }).canLock tm.entry := by
      obtain ⟨e, ph, he, hph, -⟩ := hs.world.phase_of_lt (hs.world.timerEntry t tm ht)
      have := hph.eq_pending (by simpa [hpend] using s.world.timersOf_of_timers ht rfl)
      subst this
      exact ⟨by simp [he], by simpa using hph.1⟩
    obtain ⟨k, hk⟩ := runAlone_sstCallback_lock cfg (j := s.nextTask) hcan
    exact ⟨tm, k, ht, hpend, by simp only [Sys.runTask, hk]⟩
  · cases hr

theorem fire (hs : SeqInv s) {t : Nat} (h : s.seqStep cfg (.fire t) = some s') : SeqInv s' := by
  obtain ⟨tm, k, ht, hpend, rfl⟩ := hs.seqStep_fire h
  obtain ⟨hinv, hstuck, hother⟩ := hs.world.fire ht hpend s.nextTask
  refine ⟨hinv, fun j hj => ?_, fun p t' j hp => ?_⟩
  · dsimp only at hj ⊢
    rw [Function.update_noteq (by omega)]
    exact hs.freshTask j (by omega)
  · by_cases hpe : p = tm.entry
    · subst hpe
      cases hp.unique hstuck
      exact ⟨by simp [Sys.lockRequest, Prog.lockRequest], by simp, by simp⟩
    · rw [hother p hpe] at hp
      obtain ⟨hreq, hwr, hjlt⟩ := hs.stuck p t' j hp
      refine ⟨?_, ?_, by simp; omega⟩
      · simp only [Sys.lockRequest, Function.update_noteq (Nat.ne_of_lt hjlt)]; exact hreq
      · simpa [Function.update_noteq hpe] using hwr

theorem seqStep (hs : SeqInv s) {e : Event} (h : s.seqStep cfg e = some s') : SeqInv s' := by
  cases e with
  | call c => cases h; exact hs.call c
  | fire t => exact hs.fire h

theorem seqRun : ∀ {es : List Event} {s s' : Sys}, SeqInv s → Manager.seqRun cfg es s = some s' →
    SeqInv s'
  | [], _, _, hs, h => by cases h; exact hs
  | _ :: _, _, _, hs, h => by
    simp only [Manager.seqRun, Option.bind_eq_some] at h
    obtain ⟨s₁, h₁, h₂⟩ := h
    exact seqRun (hs.seqStep h₁) h₂

end SeqInv

/-- The states a sequential run from the start reaches. -/
def SeqReachable (cfg : Config) (s : Sys) : Prop := ∃ es, seqRun cfg es Sys.init = some s

theorem SeqReachable.inv {cfg : Config} {s : Sys} (h : SeqReachable cfg s) : SeqInv s :=
  let ⟨_, h⟩ := h
  SeqInv.seqRun SeqInv.init h

theorem SeqReachable.reachable {cfg : Config} {s : Sys} (h : SeqReachable cfg s) : Reachable cfg s :=
  let ⟨es, h⟩ := h
  seqRun_steps cfg es _ _ h

end Sccp.Manager
