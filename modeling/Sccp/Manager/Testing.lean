import Sccp.Manager.Timers

/-!
# SSN state manager: the subsystem test after SSP

`HandleSSP` starts the subsystem test only on a transition from Allowed to Prohibited. An entry
that `HandleSSA`, `HandleSSP` or `HandleSST` registers starts Prohibited, so an SSP that is the
first message for its `(PointCode, SSN)` changes nothing and starts no test
(`first_ssp_starts_no_test`).

For a key `AddEntry` is never called for, `KeyState` says what the history of SSA and SSP
messages for it tells about its entry, and `KeyState.seqStep` that every call and timer expiry of
a sequential run keeps it. After an SSP, the entry is remote and Prohibited, and a timer for it is
armed exactly when an SSA came earlier (`ssp_last_prohibited_testing`).
-/
namespace Sccp.Manager

/-- The SSA or SSP a call hands to the manager for `key`, as its SCMG type. -/
def Call.stateMessage (key : Key) : Call → Option SCMGType
  | .handleSSA pc ssn => if (pc, ssn) = key then some scmgTypeSSA else none
  | .handleSSP pc ssn => if (pc, ssn) = key then some scmgTypeSSP else none
  | .processSCMGMessage m =>
    if (m.affectedPC, m.affectedSSN) = key ∧ (m.type = scmgTypeSSA ∨ m.type = scmgTypeSSP) then
      some m.type
    else none
  | _ => none

def Event.stateMessage (key : Key) : Event → Option SCMGType
  | .call c => c.stateMessage key
  | .fire _ => none

/-- A call of `AddEntry` for `key`. -/
def Event.addsEntry (key : Key) : Event → Bool
  | .call (.addEntry pc ssn _) => (pc, ssn) == key
  | _ => false

/-- The key a call looks up. -/
def Call.key : Call → Option Key
  | .addEntry pc ssn _ => some (pc, ssn)
  | .handleUserInService pc ssn => some (pc, ssn)
  | .handleUserOutOfService pc ssn => some (pc, ssn)
  | .handleSSA pc ssn => some (pc, ssn)
  | .handleSSP pc ssn => some (pc, ssn)
  | .handleSST pc ssn => some (pc, ssn)
  | .processSCMGMessage m =>
    if m.type = scmgTypeSSA ∨ m.type = scmgTypeSSP ∨ m.type = scmgTypeSST then
      some (m.affectedPC, m.affectedSSN)
    else none

theorem Call.key_of_stateMessage {c : Call} {key : Key} {x : SCMGType}
    (h : c.stateMessage key = some x) : c.key = some key := by
  cases c <;> simp only [stateMessage, Option.ite_none_right_eq_some] at h
  all_goals first
    | (obtain ⟨rfl, -⟩ := h; rfl)
    | (obtain ⟨⟨rfl, h | h⟩, -⟩ := h <;> simp [Call.key, h])

theorem Call.stateMessage_mem {c : Call} {key : Key} {x : SCMGType}
    (h : c.stateMessage key = some x) : x = scmgTypeSSA ∨ x = scmgTypeSSP := by
  cases c <;> simp only [stateMessage, Option.ite_none_right_eq_some, Option.some.injEq] at h
  all_goals first
    | (obtain ⟨-, rfl⟩ := h; simp)
    | (obtain ⟨⟨-, h⟩, rfl⟩ := h; exact h)
    | cases h

namespace World

variable (cfg : Config) {w w' : World} {p : Nat}

theorem HandlerStep.frame (hs : w.HandlerStep p w') {q : Nat} (hq : q ≠ p) :
    w'.registry = w.registry ∧ w'.flags q = w.flags q ∧ w'.testView q = w.testView q := by
  rcases hs with rfl | ⟨hl, -⟩
  · exact ⟨rfl, rfl, rfl⟩
  · exact ⟨hl.registry, by simp [flags, hl.entries q hq], hl.testView hq⟩

theorem HandlerStep.registry (hs : w.HandlerStep p w') : w'.registry = w.registry := by
  rcases hs with rfl | ⟨hl, -⟩
  · rfl
  · exact hl.registry

theorem ssaOn_locked (hm : w.mutex p ≠ .free) : (w.ssaOn cfg p).1 = w := by
  simp [ssaOn, hm]

theorem sspOn_locked (hm : w.mutex p ≠ .free) : (w.sspOn cfg p).1 = w := by
  simp [sspOn, hm]

theorem ssaOn_eq (hm : w.mutex p = .free)
    (hs : (w.entries p).map SSNEntry.state = some .prohibited) :
    (w.ssaOn cfg p).1 = ((w.setState p .allowed).stopTest p).notifyIf cfg p .allowed .networkInitiated := by
  unfold ssaOn; rw [if_pos hm, if_pos hs]

theorem ssaOn_of_ne (hs : (w.entries p).map SSNEntry.state ≠ some .prohibited) : (w.ssaOn cfg p).1 = w := by
  unfold ssaOn; split_ifs <;> rfl

theorem sspOn_eq (hm : w.mutex p = .free) (hs : (w.entries p).map SSNEntry.state = some .allowed)
    (hl : (w.entries p).map SSNEntry.isLocal = some false) :
    (w.sspOn cfg p).1 = ((w.setState p .prohibited).startTest cfg p).notifyIf cfg p .prohibited
      .networkInitiated := by
  unfold sspOn; rw [if_pos hm, if_pos hs]; simp [hl]

theorem sspOn_of_ne (hs : (w.entries p).map SSNEntry.state ≠ some .allowed) : (w.sspOn cfg p).1 = w := by
  unfold sspOn; split_ifs <;> rfl

theorem uisOn_remote (hl : (w.entries p).map SSNEntry.isLocal = some false) :
    w.uisOn cfg p = (w, some (.error .remoteSubsystem)) := by
  unfold uisOn; rw [if_pos (by simp [hl])]

theorem uosOn_remote (hl : (w.entries p).map SSNEntry.isLocal = some false) :
    w.uosOn cfg p = (w, some (.error .remoteSubsystem)) := by
  unfold uosOn; rw [if_pos (by simp [hl])]

variable {cfg}

/-- An Allowed entry's test is idle. -/
theorem Inv.idle_of_allowed (hw : w.Inv) {e : SSNEntry} (he : w.entries p = some e)
    (hs : e.state = .allowed) : (w.testView p).Is .idle := by
  obtain ⟨ph, hph, hc⟩ := hw.phase p e he
  have : ph = .idle := by
    by_contra hne
    simp [(hc hne).2] at hs
  exact this ▸ hph

/-- `HandleSSA` on an entry it can lock leaves it Allowed with its test idle. -/
theorem Inv.ssaOn_free (hw : w.Inv) (hp : p < w.nextEntry) (hm : w.mutex p = .free) {st : SSNState}
    {l : Bool} (hf : w.flags p = some (st, l)) :
    (w.ssaOn cfg p).1.flags p = some (.allowed, l) ∧ ((w.ssaOn cfg p).1.testView p).Is .idle := by
  obtain ⟨e, he, rfl, rfl⟩ := flags_eq_some _ hf
  cases hst : e.state
  · obtain ⟨e', ph, he', hph, -⟩ := hw.phase_of_lt hp
    rw [he] at he'
    cases he'
    rw [ssaOn_eq cfg hm (by simp [he, hst])]
    have hs := stopTest_spec (w := w.setState p .allowed) (p := p)
      (by rw [testView_setState]; exact hph.of_free hm)
    exact ⟨by simp [flags_setState, hf, hst], by simpa using hs.2⟩
  · rw [ssaOn_of_ne cfg (by simp [he, hst])]
    exact ⟨by simp [hf, hst], hw.idle_of_allowed he hst⟩

/-- `HandleSSP` on a remote Allowed entry it can lock leaves it Prohibited with a pending test. -/
theorem Inv.sspOn_allowed (hw : w.Inv) (hm : w.mutex p = .free)
    (hf : w.flags p = some (.allowed, false)) :
    (w.sspOn cfg p).1.flags p = some (.prohibited, false) ∧
      ∃ t, ((w.sspOn cfg p).1.testView p).Is (.pending t) := by
  obtain ⟨e, he, hs, hl⟩ := flags_eq_some _ hf
  rw [sspOn_eq cfg hm (by simp [he, hs]) (by simp [he, hl])]
  have ht := startTest_spec cfg (w := w.setState p .prohibited) (p := p)
    (by rw [testView_setState]; exact .inl (hw.idle_of_allowed he hs)) (by simp [setState, he])
    hw.freshTimer
  exact ⟨by simp [flags_setState, hf], _, by simpa using ht.2⟩

end World

namespace World.Inv

variable {cfg : Config} {w : World} {k k' : Key}

/-- `AddEntry` keeps every existing entry's flags and test. -/
theorem addEntry_frame (hw : w.Inv) (key : Key) (l : Bool) {p : Nat} (hp : p < w.nextEntry) :
    (w.addEntry cfg key l).flags p = w.flags p ∧ (w.addEntry cfg key l).testView p = w.testView p :=
  ⟨by simp [flags, Function.update_noteq (Nat.ne_of_lt hp)], (hw.addEntry_testView cfg key l).2 p hp⟩

theorem getOrAdd_registry (hk : k' ≠ k) : (w.getOrAdd cfg k').1.registry k = w.registry k := by
  unfold World.getOrAdd
  split
  · rfl
  · simp [Function.update_noteq (Ne.symm hk)]

/-- Looking up another key leaves the entry registered for `k` alone. -/
theorem getOrAdd_frame (cfg : Config) (hw : w.Inv) (hk : k' ≠ k) {p : Nat} (hp : w.registry k = some p) :
    (w.getOrAdd cfg k').2 ≠ p ∧ (w.getOrAdd cfg k').1.flags p = w.flags p ∧
      (w.getOrAdd cfg k').1.testView p = w.testView p := by
  unfold World.getOrAdd
  split
  · next p' hp' => exact ⟨fun he => hk (hw.registryInj k' k p (he ▸ hp') hp), rfl, rfl⟩
  · exact ⟨Nat.ne_of_gt (hw.registry k p hp), hw.addEntry_frame _ _ (hw.registry k p hp)⟩

/-- A handler step on the entry `GetOrAdd` gives for another key leaves the registration of `k`,
and the entry registered for it, alone. -/
theorem getOrAdd_step_frame (cfg : Config) (hw : w.Inv) (hk : k' ≠ k) (f : World → Nat → World)
    (hf : ∀ (w₁ : World) (p' : Nat), w₁.Inv → p' < w₁.nextEntry → w₁.HandlerStep p' (f w₁ p')) :
    (f (w.getOrAdd cfg k').1 (w.getOrAdd cfg k').2).registry k = w.registry k ∧
      ∀ p, w.registry k = some p → (f (w.getOrAdd cfg k').1 (w.getOrAdd cfg k').2).flags p =
        w.flags p ∧ (f (w.getOrAdd cfg k').1 (w.getOrAdd cfg k').2).testView p = w.testView p := by
  obtain ⟨h₁, hp'⟩ := hw.getOrAdd cfg k'
  have hs := hf _ _ h₁ hp'
  refine ⟨by rw [hs.registry, getOrAdd_registry hk], fun p hp => ?_⟩
  obtain ⟨hne, hfl, htv⟩ := hw.getOrAdd_frame cfg hk hp
  obtain ⟨-, hfl', htv'⟩ := hs.frame (Ne.symm hne)
  exact ⟨hfl'.trans hfl, htv'.trans htv⟩

/-- `GetEntry` for another key, then a handler step on the entry it finds, leaves the
registration of `k`, and the entry registered for it, alone. -/
theorem found_frame (hw : w.Inv) {pc : UInt16} {ssn : UInt8} (hk : (pc, ssn) ≠ k)
    (f : World → Nat → World × Option Reply)
    (hf : ∀ p', p' < w.nextEntry → w.HandlerStep p' (f w p').1) :
    (w.found pc ssn (f w)).1.registry k = w.registry k ∧ ∀ p, w.registry k = some p →
      (w.found pc ssn (f w)).1.flags p = w.flags p ∧
        (w.found pc ssn (f w)).1.testView p = w.testView p := by
  unfold World.found
  split
  · next p' hp' =>
    have hs := hf p' (hw.registry _ p' hp')
    refine ⟨by rw [hs.registry], fun p hp => ?_⟩
    have hne : p ≠ p' := fun he => hk (hw.registryInj _ k p (he ▸ hp') hp)
    exact (hs.frame hne).2
  · exact ⟨rfl, fun _ _ => ⟨rfl, rfl⟩⟩

/-- A call for another key leaves the registration of `k`, and the entry registered for it,
alone. -/
theorem alone_frame (cfg : Config) (hw : w.Inv) (c : Call) (hk : c.key ≠ some k) :
    (c.alone cfg w).1.registry k = w.registry k ∧ ∀ p, w.registry k = some p →
      (c.alone cfg w).1.flags p = w.flags p ∧ (c.alone cfg w).1.testView p = w.testView p := by
  have ssa := fun k' (hk' : k' ≠ k) =>
    hw.getOrAdd_step_frame cfg hk' (fun w p => (w.ssaOn cfg p).1) fun _ _ h hp => h.ssaOn cfg hp
  have ssp := fun k' (hk' : k' ≠ k) =>
    hw.getOrAdd_step_frame cfg hk' (fun w p => (w.sspOn cfg p).1) fun _ _ h hp => h.sspOn cfg hp
  have sst := fun k' (hk' : k' ≠ k) =>
    hw.getOrAdd_step_frame cfg hk' (fun w p => (w.sstOn p).1) fun _ _ _ _ => .inl (World.sstOn_fst _ _)
  cases c with
  | addEntry pc ssn l =>
    have hk' : (pc, ssn) ≠ k := fun h => hk (by simp [Call.key, h])
    refine ⟨by simp [Call.alone, Function.update_noteq (Ne.symm hk')], fun p hp => ?_⟩
    exact hw.addEntry_frame _ _ (hw.registry k p hp)
  | handleUserInService pc ssn =>
    exact hw.found_frame (fun h => hk (by simp [Call.key, h])) _ fun _ hp => hw.uisOn cfg hp
  | handleUserOutOfService pc ssn =>
    exact hw.found_frame (fun h => hk (by simp [Call.key, h])) _ fun _ hp => hw.uosOn cfg hp
  | handleSSA pc ssn => exact ssa _ fun h => hk (by simp [Call.key, h])
  | handleSSP pc ssn => exact ssp _ fun h => hk (by simp [Call.key, h])
  | handleSST pc ssn => exact sst _ fun h => hk (by simp [Call.key, h])
  | processSCMGMessage m =>
    simp only [Call.alone]
    split_ifs with h1 h2 h3
    · exact ssa _ fun h => hk (by simp [Call.key, h1, h])
    · exact ssp _ fun h => hk (by simp [Call.key, h2, h])
    · exact sst _ fun h => hk (by simp [Call.key, h3, h])
    · exact ⟨rfl, fun _ _ => ⟨rfl, rfl⟩⟩

end World.Inv

theorem scmgTypeSSP_ne_SSA : scmgTypeSSP ≠ scmgTypeSSA := by decide

theorem scmgTypeSST_ne_SSA : scmgTypeSST ≠ scmgTypeSSA := by decide

theorem scmgTypeSST_ne_SSP : scmgTypeSST ≠ scmgTypeSSP := by decide

/-- What the history `h` of SSA and SSP messages for an entry's key tells, given its state and
its test: while the test is idle the entry is Allowed exactly after an SSA, and after an SSP no
SSA came before; while it is pending the last message was an SSP and an SSA came before; once it
is stuck an SSA came before. -/
def historyAgrees (h : List SCMGType) (st : SSNState) : TestPhase → Prop
  | .idle => (st = .allowed ↔ h.getLast? = some scmgTypeSSA) ∧
      (h.getLast? = some scmgTypeSSP → scmgTypeSSA ∉ h)
  | .pending _ => h.getLast? = some scmgTypeSSP ∧ scmgTypeSSA ∈ h
  | .stuck _ _ => scmgTypeSSA ∈ h

/-- What the history `h` of SSA and SSP messages for `key` tells about the memory, for a key
`AddEntry` is never called for: nothing is registered before the first message, and the entry
registered is remote and agrees with the history. -/
structure KeyState (key : Key) (h : List SCMGType) (w : World) : Prop where
  messages : ∀ x ∈ h, x = scmgTypeSSA ∨ x = scmgTypeSSP
  unregistered : w.registry key = none → h = []
  registered : ∀ p, w.registry key = some p → ∃ st ph, w.flags p = some (st, false) ∧
    (w.testView p).Is ph ∧ historyAgrees h st ph

namespace KeyState

variable {cfg : Config} {key : Key} {h : List SCMGType} {w : World}

theorem init : KeyState key [] World.init :=
  ⟨fun _ h => (by cases h), fun _ => rfl, fun _ h => (by cases h)⟩

/-- A call for another key keeps the history and what it tells. -/
theorem other (hk : KeyState key h w) (hw : w.Inv) (c : Call) (hc : c.key ≠ some key) :
    KeyState key h (c.alone cfg w).1 := by
  obtain ⟨hr, hf⟩ := hw.alone_frame cfg c hc
  refine ⟨hk.messages, fun hn => hk.unregistered (hr ▸ hn), fun p hp => ?_⟩
  rw [hr] at hp
  obtain ⟨st, ph, hfl, hph, ha⟩ := hk.registered p hp
  obtain ⟨hfl', htv⟩ := hf p hp
  exact ⟨st, ph, hfl'.trans hfl, htv ▸ hph, ha⟩

/-- After `GetEntry`, and `AddEntry` when nothing is registered, the key is registered. -/
theorem getOrAdd (cfg : Config) (hk : KeyState key h w) (hw : w.Inv) :
    (w.getOrAdd cfg key).1.registry key = some (w.getOrAdd cfg key).2 ∧
      KeyState key h (w.getOrAdd cfg key).1 := by
  unfold World.getOrAdd
  split
  · next p hp => exact ⟨hp, hk⟩
  · next hn =>
    have h0 := hk.unregistered hn
    subst h0
    refine ⟨by simp, hk.messages, fun _ => rfl, fun p hp => ?_⟩
    simp only [World.addEntry_registry, Function.update_same, Option.some.injEq] at hp
    subst hp
    refine ⟨.prohibited, .idle, by simp [World.flags, SSNEntry.new], (hw.addEntry_testView cfg _ _).1,
      by simp [historyAgrees]⟩

variable {p : Nat}

theorem messages_snoc (hk : KeyState key h w) {x : SCMGType}
    (hx : x = scmgTypeSSA ∨ x = scmgTypeSSP) : ∀ y ∈ h ++ [x], y = scmgTypeSSA ∨ y = scmgTypeSSP := by
  intro y hy
  rcases List.mem_append.mp hy with hy | hy
  · exact hk.messages y hy
  · exact List.mem_singleton.mp hy ▸ hx

/-- A handler step on the entry registered for `key` keeps it registered: a history that the
entry agrees with after the step is all it takes. -/
theorem handlerStep (hk : KeyState key h w) {w' : World} {x : SCMGType}
    (hx : x = scmgTypeSSA ∨ x = scmgTypeSSP) (hr : w.registry key = some p) (hs : w.HandlerStep p w')
    (hp : ∃ st ph, w'.flags p = some (st, false) ∧ (w'.testView p).Is ph ∧ historyAgrees (h ++ [x]) st ph) :
    KeyState key (h ++ [x]) w' := by
  refine ⟨hk.messages_snoc hx, fun hn => by simp [hs.registry, hr] at hn, fun p' hp' => ?_⟩
  rw [hs.registry, hr, Option.some.injEq] at hp'
  exact hp' ▸ hp

/-- While the test is idle and the entry Prohibited, no SSA came yet. -/
theorem ssa_not_mem (hk : KeyState key h w) (ha : historyAgrees h .prohibited .idle) :
    scmgTypeSSA ∉ h := by
  cases hl : h.getLast? with
  | none => simp [List.getLast?_eq_none_iff.mp hl]
  | some x =>
    rcases hk.messages x (List.mem_of_getLast?_eq_some hl) with rfl | rfl
    · exact absurd (ha.1.mpr hl) (by decide)
    · exact ha.2 hl

theorem ssa (cfg : Config) (hk : KeyState key h w) (hw : w.Inv) (hr : w.registry key = some p) :
    KeyState key (h ++ [scmgTypeSSA]) (w.ssaOn cfg p).1 := by
  refine hk.handlerStep (.inl rfl) hr (hw.ssaOn cfg (hw.registry key p hr)) ?_
  obtain ⟨st, ph, hfl, hph, ha⟩ := hk.registered p hr
  by_cases hm : w.mutex p = .free
  · obtain ⟨hfl', hi⟩ := hw.ssaOn_free (hw.registry key p hr) hm hfl
    exact ⟨_, _, hfl', hi, by simp [historyAgrees]; decide⟩
  · obtain ⟨t, j, rfl⟩ := hph.eq_stuck hm
    rw [World.ssaOn_locked cfg hm]
    exact ⟨st, _, hfl, hph, by simp [historyAgrees]⟩

theorem ssp (cfg : Config) (hk : KeyState key h w) (hw : w.Inv) (hr : w.registry key = some p) :
    KeyState key (h ++ [scmgTypeSSP]) (w.sspOn cfg p).1 := by
  refine hk.handlerStep (.inr rfl) hr (hw.sspOn cfg (hw.registry key p hr)) ?_
  obtain ⟨st, ph, hfl, hph, ha⟩ := hk.registered p hr
  by_cases hm : w.mutex p = .free
  · cases st with
    | allowed =>
      obtain ⟨e, he, hst, -⟩ := World.flags_eq_some _ hfl
      cases hph.unique (hw.idle_of_allowed he hst)
      obtain ⟨hfl', t, ht⟩ := hw.sspOn_allowed hm hfl
      refine ⟨_, _, hfl', ht, by simp [historyAgrees], ?_⟩
      exact List.mem_append_left _ (List.mem_of_getLast?_eq_some (ha.1.mp rfl))
    | prohibited =>
      rw [World.sspOn_of_ne cfg (by obtain ⟨e, he, hst, -⟩ := World.flags_eq_some _ hfl; simp [he, hst])]
      refine ⟨_, ph, hfl, hph, ?_⟩
      cases ph with
      | idle =>
        exact ⟨by simp [scmgTypeSSP_ne_SSA],
          fun _ => by simp [hk.ssa_not_mem ha, scmgTypeSSP_ne_SSA.symm]⟩
      | pending t => exact ⟨by simp, List.mem_append_left _ ha.2⟩
      | stuck t j => simp [TestView.Is, hm, RWMutex.free] at hph
  · obtain ⟨t, j, rfl⟩ := hph.eq_stuck hm
    rw [World.sspOn_locked cfg hm]
    exact ⟨st, _, hfl, hph, List.mem_append_left _ ha⟩

theorem found (hk : KeyState key h w) (f : Nat → World × Option Reply)
    (hf : ∀ p, (w.entries p).map SSNEntry.isLocal = some false → (f p).1 = w) :
    KeyState key h (w.found key.1 key.2 f).1 := by
  unfold World.found
  split
  · next p hp =>
    obtain ⟨st, ph, hfl, -⟩ := hk.registered p hp
    obtain ⟨e, he, -, hl⟩ := World.flags_eq_some _ hfl
    rw [hf p (by simp [he, hl])]
    exact hk
  · exact hk

/-- Every call other than `AddEntry` for `key` adds its SSA or SSP for `key`, if any, to the
history, and keeps what the history tells. -/
theorem call (hk : KeyState key h w) (hw : w.Inv) (c : Call)
    (hadd : (Event.call c).addsEntry key = false) :
    KeyState key (h ++ (c.stateMessage key).toList) (c.alone cfg w).1 := by
  by_cases hc : c.key = some key
  swap
  · have : c.stateMessage key = none := by
      cases hm : c.stateMessage key
      · rfl
      · exact absurd (Call.key_of_stateMessage hm) hc
    rw [this, Option.toList_none, List.append_nil]
    exact hk.other hw c hc
  obtain ⟨hr, hk'⟩ := hk.getOrAdd cfg hw
  have hw' := (hw.getOrAdd cfg key).1
  have ssa := hk'.ssa cfg hw' hr
  have ssp := hk'.ssp cfg hw' hr
  have sst : KeyState key h ((w.getOrAdd cfg key).1.sstOn (w.getOrAdd cfg key).2).1 := by
    rw [World.sstOn_fst]; exact hk'
  cases c with
  | addEntry pc ssn l =>
    obtain rfl : (pc, ssn) = key := Option.some.inj hc
    simp [Event.addsEntry] at hadd
  | handleUserInService pc ssn =>
    obtain rfl : (pc, ssn) = key := Option.some.inj hc
    simpa [Call.stateMessage] using hk.found _ fun p hl => by rw [World.uisOn_remote cfg hl]
  | handleUserOutOfService pc ssn =>
    obtain rfl : (pc, ssn) = key := Option.some.inj hc
    simpa [Call.stateMessage] using hk.found _ fun p hl => by rw [World.uosOn_remote cfg hl]
  | handleSSA pc ssn =>
    obtain rfl : (pc, ssn) = key := Option.some.inj hc
    simpa [Call.stateMessage] using ssa
  | handleSSP pc ssn =>
    obtain rfl : (pc, ssn) = key := Option.some.inj hc
    simpa [Call.stateMessage] using ssp
  | handleSST pc ssn =>
    obtain rfl : (pc, ssn) = key := Option.some.inj hc
    simpa [Call.stateMessage] using sst
  | processSCMGMessage m =>
    simp only [Call.key, Option.ite_none_right_eq_some, Option.some.injEq] at hc
    obtain ⟨ht, rfl⟩ := hc
    simp only [Call.alone, Call.stateMessage, true_and]
    rcases ht with h1 | h2 | h3
    · simpa [h1] using ssa
    · simpa [h2, scmgTypeSSP_ne_SSA] using ssp
    · simpa [h3, scmgTypeSST_ne_SSA, scmgTypeSST_ne_SSP] using sst

/-- A timer firing, and its callback taking the entry's lock, keeps what the history tells. -/
theorem fire (hk : KeyState key h w) (hw : w.Inv) {t : Nat} {tm : Timer} (ht : w.timers t = some tm)
    (hpend : tm.status = .pending) (j : Nat) :
    KeyState key h ((w.setTimer t { tm with status := .fired j }).setMutex tm.entry ⟨some j, []⟩) := by
  obtain ⟨-, hstuck, hother⟩ := hw.fire ht hpend j
  refine ⟨hk.messages, hk.unregistered, fun p hp => ?_⟩
  obtain ⟨st, ph, hfl, hph, ha⟩ := hk.registered p hp
  by_cases hpe : p = tm.entry
  · subst hpe
    have := hph.eq_pending (by simpa [hpend] using w.timersOf_of_timers ht rfl)
    subst this
    exact ⟨st, _, hfl, hstuck, ha.2⟩
  · exact ⟨st, ph, hfl, hother p hpe ▸ hph, ha⟩

variable {s s' : Sys}

/-- Every event of a sequential run other than `AddEntry` for `key` keeps what the history of
`key` tells, with the event's SSA or SSP for `key` added to it. -/
theorem seqStep (hk : KeyState key h s.world) (hs : SeqInv s) {e : Event}
    (hadd : e.addsEntry key = false) (hst : s.seqStep cfg e = some s') :
    KeyState key (h ++ (e.stateMessage key).toList) s'.world := by
  cases e with
  | call c =>
    cases hst
    rw [Sys.runTask_world, runAlone_call cfg _ hs.world.valid]
    exact hk.call hs.world c hadd
  | fire t =>
    obtain ⟨tm, k, ht, hpend, rfl⟩ := hs.seqStep_fire hst
    simpa [Event.stateMessage] using hk.fire hs.world ht hpend s.nextTask

theorem seqRun : ∀ {es : List Event} {h : List SCMGType} {s s' : Sys}, KeyState key h s.world →
    SeqInv s → (∀ e ∈ es, e.addsEntry key = false) → Manager.seqRun cfg es s = some s' →
    KeyState key (h ++ es.filterMap (Event.stateMessage key)) s'.world
  | [], _, _, _, hk, _, _, hr => by cases hr; simpa using hk
  | e :: _, _, _, _, hk, hs, hadd, hr => by
    simp only [Manager.seqRun, Option.bind_eq_some] at hr
    obtain ⟨s₁, h₁, h₂⟩ := hr
    have := seqRun (hk.seqStep hs (hadd e (.head _)) h₁) (hs.seqStep h₁)
      (fun e' he' => hadd e' (.tail _ he')) h₂
    cases hm : e.stateMessage key <;> simpa [List.filterMap_cons, hm] using this

end KeyState

/-- In a sequential run, a `(PointCode, SSN)` that `AddEntry` was never called for and whose last
SSA or SSP was an SSP has a remote Prohibited entry, which has an armed timer exactly when an SSA
came earlier. -/
theorem ssp_last_prohibited_testing {cfg : Config} {es : List Event} {s : Sys} {key : Key}
    (hrun : seqRun cfg es Sys.init = some s) (hadd : ∀ e ∈ es, e.addsEntry key = false)
    (hlast : (es.filterMap (Event.stateMessage key)).getLast? = some scmgTypeSSP) :
    ∃ p e, s.world.registry key = some p ∧ s.world.entries p = some e ∧ e.isLocal = false ∧
      e.state = .prohibited ∧
      ((∃ t, s.armed t p = true) ↔ scmgTypeSSA ∈ es.filterMap (Event.stateMessage key)) := by
  have hs := SeqInv.seqRun SeqInv.init hrun
  have hk := KeyState.init.seqRun SeqInv.init hadd hrun
  rw [List.nil_append] at hk
  cases hr : s.world.registry key with
  | none => simp [hk.unregistered hr] at hlast
  | some p =>
    obtain ⟨st, ph, hfl, hph, ha⟩ := hk.registered p hr
    obtain ⟨e, he, rfl, hl⟩ := World.flags_eq_some _ hfl
    have hstate : e.state = .prohibited := by
      cases hst : e.state
      · rfl
      · cases hph.unique (hs.world.idle_of_allowed he hst)
        simp [historyAgrees, hst, hlast, scmgTypeSSP_ne_SSA] at ha
    refine ⟨p, e, rfl, he, hl, hstate, ?_⟩
    rw [hs.exists_armed_iff hph]
    cases ph with
    | idle => exact iff_of_false (by simp) (ha.2 hlast)
    | pending t => exact iff_of_true (by simp) ha.2
    | stuck t j => exact iff_of_true (by simp) ha

/-- An SSA and then an SSP for one key leave its entry Prohibited with an armed timer. -/
theorem ssp_after_ssa_armed :
    ∃ s, seqRun Config.default [.call (.handleSSA 10 7), .call (.handleSSP 10 7)] Sys.init = some s ∧
      ∃ p e, s.world.registry (10, 7) = some p ∧ s.world.entries p = some e ∧ e.isLocal = false ∧
        e.state = .prohibited ∧ ∃ t, s.armed t p = true := by
  obtain ⟨s, hs⟩ := Option.isSome_iff_exists.mp
    (show (seqRun Config.default [.call (.handleSSA 10 7), .call (.handleSSP 10 7)] Sys.init).isSome
      by decide)
  obtain ⟨p, e, hr, he, hl, hst, harm⟩ := @ssp_last_prohibited_testing _ _ _ (10, 7) hs (by decide) (by decide)
  exact ⟨s, hs, p, e, hr, he, hl, hst, harm.mpr (by decide)⟩

/-- An SSP that is the first message for its key registers a remote Prohibited entry and arms no
timer: the entry was Prohibited already, so no test starts. -/
theorem first_ssp_starts_no_test :
    ∃ s, seqRun Config.default [.call (.handleSSP 10 7)] Sys.init = some s ∧
      s.world.registry (10, 7) = some 0 ∧ s.world.flags 0 = some (.prohibited, false) ∧
      (∀ t, s.armed t 0 = false) ∧ s.world.sent = [] := by
  have hc : (seqRun Config.default [.call (.handleSSP 10 7)] Sys.init).map (fun s =>
      decide (s.world.registry (10, 7) = some 0) &&
        decide (s.world.flags 0 = some (.prohibited, false)) && s.world.nextTimer == 0 &&
        s.world.sent.isEmpty) = some true := by decide
  cases hs : seqRun Config.default [.call (.handleSSP 10 7)] Sys.init with
  | none => simp [hs] at hc
  | some s =>
    simp only [hs, Option.map_some', Option.some.injEq, Bool.and_eq_true, decide_eq_true_eq,
      beq_iff_eq, List.isEmpty_iff] at hc
    obtain ⟨⟨⟨hr, hf⟩, ht⟩, hsent⟩ := hc
    refine ⟨s, rfl, hr, hf, fun t => ?_, hsent⟩
    simp [Sys.armed, (SeqInv.seqRun SeqInv.init hs).world.freshTimer t (by omega)]

end Sccp.Manager
