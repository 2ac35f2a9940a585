import Sccp.Manager.Sequential

/-!
# SSN state manager: an entry's SST test

What the memory holds about one entry's subsystem test (its mutex, its `TestTimer` and the
timers made for it) is its `TestView`. In a sequential run the view always shows one
`TestPhase`: no timer armed, one timer pending, or one timer fired whose callback holds the entry's
write lock and waits on it for good (`Sccp.Manager.Deadlock`); every other timer of the entry is
stopped.

`World.Local p w w'` says that `w'` differs from `w` at entry `p` only. The handlers' building
blocks (`setState`, `stopTest`, `startTest`, the callbacks) are such changes, and each has one
lemma saying what it does to the phase of its own entry.
-/
namespace Sccp.Manager

/-- What an entry's SST test is doing: no timer armed, the timer `t` pending, or the timer `t`
fired with its callback, goroutine `j`, holding the entry's write lock. -/
inductive TestPhase where
  | idle
  | pending (t : Nat)
  | stuck (t j : Nat)
  deriving DecidableEq, Repr

/-- The timer a phase is about. -/
def TestPhase.timer : TestPhase → Option Nat
  | .idle => none
  | .pending t => some t
  | .stuck t _ => some t

/-- The memory's data on one entry's test: its mutex, its `TestTimer`, and the status of each
timer made for it. -/
structure TestView where
  mutex : RWMutex
  testTimer : Option Nat
  timers : Nat → Option TimerStatus

namespace TestView

/-- Every timer of the entry other than `t` is stopped. -/
def OthersStopped (v : TestView) (t : Option Nat) : Prop :=
  ∀ t' st, v.timers t' = some st → some t' ≠ t → st = .stopped

/-- The view shows the phase. -/
def Is (v : TestView) : TestPhase → Prop
  | .idle => v.mutex = .free ∧ v.testTimer = none ∧ v.OthersStopped none
  | .pending t =>
    v.mutex = .free ∧ v.testTimer = some t ∧ v.timers t = some .pending ∧ v.OthersStopped (some t)
  | .stuck t j =>
    v.mutex = ⟨some j, []⟩ ∧ v.testTimer = some t ∧ v.timers t = some (.fired j) ∧
      v.OthersStopped (some t)

theorem Is.testTimer {v : TestView} {ph : TestPhase} (h : v.Is ph) {t : Nat}
    (ht : v.testTimer = some t) : ∃ st, v.timers t = some st := by
  cases ph with
  | idle => simp [h.2.1] at ht
  | pending t' => obtain ⟨-, h1, h2, -⟩ := h; rw [h1] at ht; cases ht; exact ⟨_, h2⟩
  | stuck t' j => obtain ⟨-, h1, h2, -⟩ := h; rw [h1] at ht; cases ht; exact ⟨_, h2⟩

theorem Is.othersStopped {v : TestView} {ph : TestPhase} (h : v.Is ph) : v.OthersStopped ph.timer := by
  cases ph with
  | idle => exact h.2.2
  | pending t => exact h.2.2.2
  | stuck t j => exact h.2.2.2

/-- A timer of the entry that is not stopped is the one its phase is about. -/
theorem Is.timer_eq {v : TestView} {ph : TestPhase} (h : v.Is ph) {t : Nat} {st : TimerStatus}
    (ht : v.timers t = some st) (hs : st ≠ .stopped) : ph.timer = some t := by
  by_contra hne
  exact hs (h.othersStopped t st ht (Ne.symm hne))

/-- A view shows one phase. -/
theorem Is.unique {v : TestView} {ph ph' : TestPhase} (h : v.Is ph) (h' : v.Is ph') : ph = ph' := by
  cases ph <;> cases ph' <;> simp_all [Is, RWMutex.free]

/-- With its mutex free, an entry's test is idle or pending. -/
theorem Is.of_free {v : TestView} {ph : TestPhase} (h : v.Is ph) (hm : v.mutex = .free) :
    v.Is .idle ∨ ∃ t, v.Is (.pending t) := by
  cases ph with
  | idle => exact .inl h
  | pending t => exact .inr ⟨t, h⟩
  | stuck t j => simp [Is, hm, RWMutex.free] at h

/-- With its mutex held, an entry's test is stuck. -/
theorem Is.eq_stuck {v : TestView} {ph : TestPhase} (h : v.Is ph) (hm : v.mutex ≠ .free) :
    ∃ t j, ph = .stuck t j := by
  cases ph with
  | idle => exact absurd h.1 hm
  | pending t => exact absurd h.1 hm
  | stuck t j => exact ⟨t, j, rfl⟩

/-- A test with a pending timer is pending on that timer. -/
theorem Is.eq_pending {v : TestView} {ph : TestPhase} (h : v.Is ph) {t : Nat}
    (ht : v.timers t = some .pending) : ph = .pending t := by
  cases ph with
  | idle => cases h.2.2 t _ ht (by simp)
  | pending t' =>
    by_cases he : t = t'
    · rw [he]
    · cases h.2.2.2 t _ ht (by simpa using he)
  | stuck t' j =>
    by_cases he : t = t'
    · subst he; rw [h.2.2.1] at ht; cases ht
    · cases h.2.2.2 t _ ht (by simpa using he)

theorem Is.readers {v : TestView} {ph : TestPhase} (h : v.Is ph) : v.mutex.readers = [] := by
  cases ph with
  | idle => rw [h.1]; rfl
  | pending t => rw [h.1]; rfl
  | stuck t j => rw [h.1]

end TestView

namespace World

variable (w : World)

/-- The status of timer `t` when it was made for entry `p`. -/
def timersOf (p t : Nat) : Option TimerStatus :=
  (w.timers t).bind fun tm => if tm.entry = p then some tm.status else none

/-- The entry's `TestTimer`. -/
def testTimerOf (p : Nat) : Option Nat := (w.entries p).bind SSNEntry.testTimer

def testView (p : Nat) : TestView := ⟨w.mutex p, w.testTimerOf p, w.timersOf p⟩

theorem timersOf_eq_some {p t : Nat} {st : TimerStatus} (h : w.timersOf p t = some st) :
    ∃ tm, w.timers t = some tm ∧ tm.entry = p ∧ tm.status = st := by
  simp only [timersOf, Option.bind_eq_some, Option.ite_none_right_eq_some,
    Option.some.injEq] at h
  obtain ⟨tm, h1, h2, h3⟩ := h
  exact ⟨tm, h1, h2, h3⟩

theorem timersOf_of_timers {p t : Nat} {tm : Timer} (h : w.timers t = some tm) (hp : tm.entry = p) :
    w.timersOf p t = some tm.status := by
  simp [timersOf, h, hp]

theorem timersOf_of_ne {p t : Nat} {tm : Timer} (h : w.timers t = some tm) (hp : tm.entry ≠ p) :
    w.timersOf p t = none := by
  simp [timersOf, h, hp]

@[simp] theorem testView_mutex (p : Nat) : (w.testView p).mutex = w.mutex p := rfl

@[simp] theorem testView_testTimer (p : Nat) : (w.testView p).testTimer = w.testTimerOf p := rfl

@[simp] theorem testView_timers (p : Nat) : (w.testView p).timers = w.timersOf p := rfl

@[simp] theorem testView_notify (n : Notification) : (w.notify n).testView = w.testView := rfl

@[simp] theorem testView_broadcast (b : BroadcastType) (p : Nat) :
    (w.broadcast b p).testView = w.testView := rfl

theorem timersOf_setTimer (t : Nat) (tm : Timer) (q : Nat) :
    (w.setTimer t tm).timersOf q =
      Function.update (w.timersOf q) t (if tm.entry = q then some tm.status else none) := by
  funext t'
  by_cases ht : t' = t
  · subst ht; simp [timersOf]
  · simp [timersOf, Function.update_noteq ht]

theorem timersOf_afterFunc (d : Int) (p q : Nat) :
    (w.afterFunc d p).timersOf q =
      Function.update (w.timersOf q) w.nextTimer (if p = q then some .pending else none) := by
  funext t'
  by_cases ht : t' = w.nextTimer
  · subst ht; simp [timersOf]
  · simp [timersOf, Function.update_noteq ht]

@[simp] theorem timersOf_setMutex (p : Nat) (m : RWMutex) : (w.setMutex p m).timersOf = w.timersOf :=
  rfl

@[simp] theorem testTimerOf_setMutex (p : Nat) (m : RWMutex) :
    (w.setMutex p m).testTimerOf = w.testTimerOf := rfl

@[simp] theorem testTimerOf_setTimer (t : Nat) (tm : Timer) :
    (w.setTimer t tm).testTimerOf = w.testTimerOf := rfl

@[simp] theorem timersOf_addEntry (cfg : Config) (key : Key) (l : Bool) :
    (w.addEntry cfg key l).timersOf = w.timersOf := rfl

@[simp] theorem timersOf_modifyEntry (p : Nat) (f : SSNEntry → SSNEntry) :
    (w.modifyEntry p f).timersOf = w.timersOf := rfl

theorem testTimerOf_modifyEntry (p : Nat) (f : SSNEntry → SSNEntry) (q : Nat) :
    (w.modifyEntry p f).testTimerOf q =
      if q = p then (w.entries p).bind fun e => (f e).testTimer else w.testTimerOf q := by
  by_cases hq : q = p
  · subst hq; simp [testTimerOf, Option.bind_map]
  · simp [testTimerOf, Function.update_noteq hq, hq]

/-- A change of an entry's record that keeps its `TestTimer` keeps every view. -/
theorem testView_modifyEntry {p : Nat} {f : SSNEntry → SSNEntry}
    (hf : ∀ e, (f e).testTimer = e.testTimer) : (w.modifyEntry p f).testView = w.testView := by
  funext q
  simp only [testView, modifyEntry_mutex, timersOf_modifyEntry, testTimerOf_modifyEntry, hf]
  split_ifs with hq
  · subst hq; rfl
  · rfl

@[simp] theorem testView_setState (p : Nat) (st : SSNState) :
    (w.setState p st).testView = w.testView :=
  w.testView_modifyEntry fun _ => rfl

theorem cancel_of_pending {t : Nat} {tm : Timer} (ht : w.timers t = some tm)
    (hs : tm.status = .pending) : w.cancel t = w.setTimer t { tm with status := .stopped } := by
  simp [cancel, ht, hs]

theorem cancel_of_not_pending {t : Nat} (ht : ∀ tm, w.timers t = some tm → tm.status ≠ .pending) :
    w.cancel t = w := by
  unfold cancel
  split
  · next tm h => rw [if_neg (ht tm h)]
  · rfl

@[simp] theorem cancel_entries (t : Nat) : (w.cancel t).entries = w.entries := by
  unfold cancel; split <;> (try split_ifs) <;> rfl

@[simp] theorem cancel_mutex (t : Nat) : (w.cancel t).mutex = w.mutex := by
  unfold cancel; split <;> (try split_ifs) <;> rfl

@[simp] theorem cancel_nextTimer (t : Nat) : (w.cancel t).nextTimer = w.nextTimer := by
  unfold cancel; split <;> (try split_ifs) <;> rfl

theorem stopTest_of_none {p : Nat} (h : w.testTimerOf p = none) :
    w.stopTest p = w.modifyEntry p fun e => { e with testRetries := 0 } := by
  simp only [stopTest, show (w.entries p).bind SSNEntry.testTimer = none from h]

theorem stopTest_of_some {p t : Nat} (h : w.testTimerOf p = some t) :
    w.stopTest p = ((w.cancel t).modifyEntry p fun e => { e with testTimer := none }).modifyEntry p
      fun e => { e with testRetries := 0 } := by
  simp only [stopTest, show (w.entries p).bind SSNEntry.testTimer = some t from h]

theorem startTest_eq (cfg : Config) (p : Nat) :
    w.startTest cfg p =
      let w₁ := match w.testTimerOf p with
        | some t => w.cancel t
        | none => w
      ((w₁.modifyEntry p fun e => { e with testRetries := 0, testInterval := cfg.defaultTestInterval }
        ).afterFunc cfg.defaultTestInterval p).modifyEntry p
          fun e => { e with testTimer := some w₁.nextTimer } := rfl

/-- `w'` is `w` changed at entry `p` only: its record (not whether it exists), its timers and
new timers made for it, and the lists of callbacks. -/
structure Local (p : Nat) (w w' : World) : Prop where
  registry : w'.registry = w.registry
  nextEntry : w'.nextEntry = w.nextEntry
  mutex : w'.mutex = w.mutex
  entries : ∀ q, q ≠ p → w'.entries q = w.entries q
  isSome : (w'.entries p).isSome = (w.entries p).isSome
  nextTimer : w.nextTimer ≤ w'.nextTimer
  fresh : (∀ t, w.nextTimer ≤ t → w.timers t = none) → ∀ t, w'.nextTimer ≤ t → w'.timers t = none
  timerEntry : ∀ t tm, w'.timers t = some tm → tm.entry = p ∨ ∃ tm₀, w.timers t = some tm₀ ∧ tm₀.entry = tm.entry
  timersOf : ∀ q, q ≠ p → w'.timersOf q = w.timersOf q
  sent : w'.sent = w.sent

namespace Local

variable {w} {p : Nat}

theorem refl : Local p w w :=
  ⟨rfl, rfl, rfl, fun _ _ => rfl, rfl, le_rfl, id, fun _ tm h => .inr ⟨tm, h, rfl⟩,
    fun _ _ => rfl, rfl⟩

theorem trans {w₁ w₂ : World} (h₁ : Local p w w₁) (h₂ : Local p w₁ w₂) : Local p w w₂ where
  registry := h₂.registry.trans h₁.registry
  nextEntry := h₂.nextEntry.trans h₁.nextEntry
  mutex := h₂.mutex.trans h₁.mutex
  entries q hq := (h₂.entries q hq).trans (h₁.entries q hq)
  isSome := h₂.isSome.trans h₁.isSome
  nextTimer := h₁.nextTimer.trans h₂.nextTimer
  fresh hf := h₂.fresh (h₁.fresh hf)
  timerEntry t tm h := by
    rcases h₂.timerEntry t tm h with h | ⟨tm₁, h1, he⟩
    · exact .inl h
    · rcases h₁.timerEntry t tm₁ h1 with h' | ⟨tm₀, h0, he'⟩
      · exact .inl (he ▸ h')
      · exact .inr ⟨tm₀, h0, he'.trans he⟩
  timersOf q hq := (h₂.timersOf q hq).trans (h₁.timersOf q hq)
  sent := h₂.sent.trans h₁.sent

theorem modifyEntry (f : SSNEntry → SSNEntry) : Local p w (w.modifyEntry p f) where
  registry := rfl
  nextEntry := rfl
  mutex := rfl
  entries q hq := by simp [Function.update_noteq hq]
  isSome := by simp
  nextTimer := le_rfl
  fresh := id
  timerEntry t tm h := .inr ⟨tm, h, rfl⟩
  timersOf _ _ := rfl
  sent := rfl

theorem notify (n : Notification) : Local p w (w.notify n) :=
  ⟨rfl, rfl, rfl, fun _ _ => rfl, rfl, le_rfl, id, fun _ tm h => .inr ⟨tm, h, rfl⟩,
    fun _ _ => rfl, rfl⟩

theorem broadcast (b : BroadcastType) (q : Nat) : Local p w (w.broadcast b q) :=
  ⟨rfl, rfl, rfl, fun _ _ => rfl, rfl, le_rfl, id, fun _ tm h => .inr ⟨tm, h, rfl⟩,
    fun _ _ => rfl, rfl⟩

/-- Stopping a timer of entry `p` is a change at `p`. -/
theorem cancel {t : Nat} (ht : ∀ tm, w.timers t = some tm → tm.entry = p) : Local p w (w.cancel t) := by
  unfold World.cancel
  split
  · next tm h =>
    split_ifs
    · refine ⟨rfl, rfl, rfl, fun _ _ => rfl, rfl, le_rfl, fun hf t' ht' => ?_,
        fun t' tm' h' => ?_, fun q hq => ?_, rfl⟩
      · have : t' ≠ t := by rintro rfl; simp [hf t' ht'] at h
        simp [Function.update_noteq this, hf t' ht']
      · by_cases he : t' = t
        · subst he; simp at h'; exact .inl (h' ▸ ht tm h)
        · simp [Function.update_noteq he] at h'; exact .inr ⟨tm', h', rfl⟩
      · rw [timersOf_setTimer, if_neg (by rw [ht tm h]; exact Ne.symm hq),
          Function.update_eq_self_iff, w.timersOf_of_ne h (by rw [ht tm h]; exact Ne.symm hq)]
    · exact refl
  · exact refl

theorem setState (st : SSNState) : Local p w (w.setState p st) := modifyEntry _

theorem notifyIf (cfg : Config) (q : Nat) (st : SSNState) (r : StateChangeReason) :
    Local p w (w.notifyIf cfg q st r) := by
  unfold World.notifyIf; split
  · exact notify _
  · exact refl

theorem broadcastIf (cfg : Config) (b : BroadcastType) (q : Nat) :
    Local p w (w.broadcastIf cfg b q) := by
  unfold World.broadcastIf; split
  · exact broadcast _ _
  · exact refl

/-- A change at `p` keeps the view of every other entry. -/
theorem testView {w' : World} (h : Local p w w') {q : Nat} (hq : q ≠ p) :
    w'.testView q = w.testView q := by
  simp only [World.testView, World.testTimerOf, h.mutex, h.entries q hq, h.timersOf q hq]

theorem afterFunc (d : Int) (h : w.timers w.nextTimer = none) : Local p w (w.afterFunc d p) where
  registry := rfl
  nextEntry := rfl
  mutex := rfl
  entries _ _ := rfl
  isSome := rfl
  nextTimer := Nat.le_succ _
  fresh hf t ht := by
    simp only [World.afterFunc_nextTimer] at ht
    simp [Function.update_noteq (show t ≠ w.nextTimer by omega), hf t (by omega)]
  timerEntry t tm h' := by
    by_cases ht : t = w.nextTimer
    · subst ht; simp at h'; exact .inl (h' ▸ rfl)
    · simp [Function.update_noteq ht] at h'; exact .inr ⟨tm, h', rfl⟩
  timersOf q hq := by
    rw [timersOf_afterFunc, if_neg (Ne.symm hq), Function.update_eq_self_iff]
    simp [World.timersOf, h]
  sent := rfl

end Local

variable {w}

@[simp] theorem testView_notifyIf (cfg : Config) (q : Nat) (st : SSNState) (r : StateChangeReason) :
    (w.notifyIf cfg q st r).testView = w.testView := by
  unfold notifyIf; split <;> rfl

@[simp] theorem testView_broadcastIf (cfg : Config) (b : BroadcastType) (q : Nat) :
    (w.broadcastIf cfg b q).testView = w.testView := by
  unfold broadcastIf; split <;> rfl

/-- Arming a timer for an entry none of whose timers is armed: the timer made at `nextTimer`
becomes its `TestTimer`, and the test is pending. -/
theorem arm_spec {p : Nat} (g : SSNEntry → SSNEntry) (d : Int) (hm : w.mutex p = .free)
    (hs : ∀ t st, w.timersOf p t = some st → st = .stopped) (he : (w.entries p).isSome)
    (hf : w.timers w.nextTimer = none) :
    Local p w (((w.modifyEntry p g).afterFunc d p).modifyEntry p
        fun e => { e with testTimer := some w.nextTimer }) ∧
      ((((w.modifyEntry p g).afterFunc d p).modifyEntry p
        fun e => { e with testTimer := some w.nextTimer }).testView p).Is (.pending w.nextTimer) := by
  refine ⟨((Local.modifyEntry g).trans (Local.afterFunc d hf)).trans (Local.modifyEntry _),
    by simpa using hm, ?_, ?_, fun t' st h' ht' => ?_⟩
  · obtain ⟨e, he⟩ := Option.isSome_iff_exists.mp he
    simp [testTimerOf, he]
  · simp [timersOf_afterFunc]
  · simp only [testView_timers, timersOf_modifyEntry, timersOf_afterFunc, modifyEntry_nextTimer,
      if_true] at h'
    rw [Function.update_noteq (fun h => ht' (congrArg some h))] at h'
    exact hs t' st h'

/-- `stopSST` on an entry whose test is idle or pending leaves it idle, and changes nothing
else. -/
theorem stopTest_spec {p : Nat}
    (hph : (w.testView p).Is .idle ∨ ∃ t, (w.testView p).Is (.pending t)) :
    Local p w (w.stopTest p) ∧ ((w.stopTest p).testView p).Is .idle := by
  rcases hph with hi | ⟨t, hm, htt, hts, hos⟩
  · rw [w.stopTest_of_none hi.2.1]
    exact ⟨.modifyEntry _,
      by rw [w.testView_modifyEntry (f := fun e => { e with testRetries := 0 }) fun _ => rfl]; exact hi⟩
  · obtain ⟨tm, ht, hte, hst⟩ := w.timersOf_eq_some hts
    have hc : Local p w (w.cancel t) := Local.cancel fun tm' h' => by
      rw [ht] at h'; cases h'; exact hte
    rw [w.stopTest_of_some htt]
    refine ⟨(hc.trans (.modifyEntry _)).trans (.modifyEntry _), by simpa using hm, ?_,
      fun t' st h' _ => ?_⟩
    · cases he : w.entries p <;> simp [testTimerOf, he]
    · simp only [testView_timers, timersOf_modifyEntry, w.cancel_of_pending ht hst,
        timersOf_setTimer, hte, if_true] at h'
      by_cases he : t' = t
      · subst he; simp at h'; exact h'.symm
      · rw [Function.update_noteq he] at h'; exact hos t' st h' (by simpa using he)

/-- `startSST` on a remote entry whose test is idle or pending: the old timer is stopped and the
new one, made at `nextTimer`, is pending. -/
theorem startTest_spec (cfg : Config) {p : Nat}
    (hph : (w.testView p).Is .idle ∨ ∃ t, (w.testView p).Is (.pending t))
    (he : (w.entries p).isSome) (hf : ∀ t, w.nextTimer ≤ t → w.timers t = none) :
    Local p w (w.startTest cfg p) ∧ ((w.startTest cfg p).testView p).Is (.pending w.nextTimer) := by
  rw [startTest_eq]
  rcases hph with hi | ⟨t, hm, htt, hts, hos⟩
  · simp only [show w.testTimerOf p = none from hi.2.1]
    exact arm_spec _ _ hi.1 (fun t st h => hi.2.2 t st h (by simp)) he (hf _ le_rfl)
  · obtain ⟨tm, ht, hte, hst⟩ := w.timersOf_eq_some hts
    have hc : Local p w (w.cancel t) := Local.cancel fun tm' h' => by
      rw [ht] at h'; cases h'; exact hte
    simp only [show w.testTimerOf p = some t from htt]
    have hs : ∀ t' st, (w.cancel t).timersOf p t' = some st → st = .stopped := by
      intro t' st h'
      rw [w.cancel_of_pending ht hst, timersOf_setTimer, hte, if_pos rfl] at h'
      by_cases he : t' = t
      · subst he; simp at h'; exact h'.symm
      · rw [Function.update_noteq he] at h'; exact hos t' st h' (by simpa using he)
    have ha := arm_spec (w := w.cancel t) (fun e => { e with testRetries := 0, testInterval := cfg.defaultTestInterval })
      cfg.defaultTestInterval (by simpa using hm) hs (by simpa using he) (hc.fresh hf _ le_rfl)
    simp only [cancel_nextTimer] at ha ⊢
    exact ⟨hc.trans ha.1, ha.2⟩

end World

end Sccp.Manager
