import Sccp.Manager.Step

/-!
# SSN state manager: what each call replies

`HandleSSA`, `HandleSSP`, `HandleSST` and `ProcessSCMGMessage` return `nil` on every path: the one
error `HandleSST` could return, from marshalling its SSA response, never happens, since every SCMG
marshals. `AddEntry` returns nil in the model too. Only the two user handlers fail, with
`"SSN entry not found"` for their own key or with `"cannot change state of remote subsystem"`.
`Prog.Returns` says this of a goroutine's code whatever its operations return, so it holds in
every interleaving, whatever the other goroutines do (`call_reply_allowed`).
-/
namespace Sccp.Manager

/-- Every value the program can return, whatever its operations return, satisfies `P`. -/
inductive Prog.Returns {α : Type} (P : α → Prop) : Prog α → Prop
  | pure (a : α) : P a → Returns P (.pure a)
  | op (o : Op) (next : o.Ret → Prog α) : (∀ r, Returns P (next r)) → Returns P (.op o next)

namespace Prog.Returns

variable {α β : Type} {P : β → Prop}

/-- Only the continuation's returns count. -/
theorem bind {x : Prog α} {f : α → Prog β} (hf : ∀ a, (f a).Returns P) : (x >>= f).Returns P := by
  induction x with
  | pure a => exact hf a
  | op o next ih => exact .op o _ ih

theorem ite {c : Prop} {d : Decidable c} {x y : Prog β} (hx : x.Returns P) (hy : y.Returns P) :
    (@ite _ c d x y).Returns P := by
  cases d
  · exact hy
  · exact hx

end Prog.Returns

/-- The replies a call can get: `nil`, and for the two user handlers `"SSN entry not found"` for
their key and `"cannot change state of remote subsystem"`. -/
def Call.Replies : Call → Reply → Prop
  | .handleUserInService pc ssn, a | .handleUserOutOfService pc ssn, a =>
    a = .ok () ∨ a = .error (.entryNotFound pc ssn) ∨ a = .error .remoteSubsystem
  | _, a => a = .ok ()

section Programs

variable (cfg : Config) (pc : UInt16) (ssn : UInt8)

/-- Every path of a handler returns one of its replies: the network handlers `nil`, the user
handlers `nil`, `"SSN entry not found"` for their key, or `"cannot change state of remote
subsystem"`. -/
theorem returns_handlers :
    (handleSSA cfg pc ssn).Returns (· = .ok ()) ∧ (handleSSP cfg pc ssn).Returns (· = .ok ()) ∧
      (handleSST pc ssn).Returns (· = .ok ()) ∧
      (handleUserInService cfg pc ssn).Returns ((Call.handleUserInService pc ssn).Replies) ∧
      (handleUserOutOfService cfg pc ssn).Returns ((Call.handleUserOutOfService pc ssn).Replies) := by
  refine ⟨?_, ?_, ?_, ?_, ?_⟩ <;>
  simp only [Manager.handleSSA, Manager.handleSSP, Manager.handleSST, Manager.handleUserInService,
    Manager.handleUserOutOfService, SCMG.marshalBinary_eq_wire, Prog.pure_eq] <;>
  repeat' first
    | exact .pure _ rfl
    | exact .pure _ (.inl rfl)
    | exact .pure _ (.inr (.inl rfl))
    | exact .pure _ (.inr (.inr rfl))
    | refine Prog.Returns.bind fun _ => ?_
    | refine Prog.Returns.ite ?_ ?_
    | split

end Programs

theorem Call.returns_prog (cfg : Config) : ∀ c : Call, (c.prog cfg).Returns c.Replies
  | .addEntry .. => .bind fun _ => .pure _ rfl
  | .handleUserInService pc ssn => (returns_handlers cfg pc ssn).2.2.2.1
  | .handleUserOutOfService pc ssn => (returns_handlers cfg pc ssn).2.2.2.2
  | .handleSSA pc ssn => (returns_handlers cfg pc ssn).1
  | .handleSSP pc ssn => (returns_handlers cfg pc ssn).2.1
  | .handleSST pc ssn => (returns_handlers cfg pc ssn).2.2.1
  | .processSCMGMessage scmg =>
    have h := returns_handlers cfg scmg.affectedPC scmg.affectedSSN
    .ite h.1 (.ite h.2.1 (.ite h.2.2.1 (.pure _ rfl)))

section Interleaving

variable {cfg : Config} {s s' : Sys} {j : Nat} {P : Reply → Prop}

/-- No step of another goroutine touches goroutine `j`'s code, and its own steps keep what it can
return. -/
theorem Sys.step_returns {a : Action} (h : s.step cfg a = some s') (hj : j < s.nextTask)
    {prog : Prog Reply} (hp : s.tasks j = some prog) (hR : prog.Returns P) :
    j < s'.nextTask ∧ ∃ prog', s'.tasks j = some prog' ∧ prog'.Returns P := by
  cases a with
  | call c =>
    obtain rfl := Sys.step_call cfg h
    exact ⟨Nat.lt_succ_of_lt hj, prog, by simp [Sys.spawn, Function.update_noteq hj.ne, hp], hR⟩
  | fire t =>
    obtain ⟨tm, -, -, rfl⟩ := Sys.step_fire cfg h
    exact ⟨Nat.lt_succ_of_lt hj, prog, by simp [Sys.spawn, Function.update_noteq hj.ne, hp], hR⟩
  | exec i =>
    obtain ⟨o, next, r, hi, -, rfl⟩ := Sys.step_exec cfg h
    refine ⟨hj, ?_⟩
    by_cases hji : j = i
    · subst hji
      rw [hp, Option.some.injEq] at hi
      subst hi
      cases hR with
      | op _ _ hnext => exact ⟨next r.2, by simp, hnext r.2⟩
    · exact ⟨prog, by simp [Function.update_noteq hji, hp], hR⟩

/-- A goroutine's code keeps what it can return in every continuation of the run. -/
theorem Sys.returns_steps (h : Relation.ReflTransGen (Sys.Next cfg) s s') (hj : j < s.nextTask)
    {prog : Prog Reply} (hp : s.tasks j = some prog) (hR : prog.Returns P) :
    ∃ prog', s'.tasks j = some prog' ∧ prog'.Returns P := by
  suffices j < s'.nextTask ∧ ∃ prog', s'.tasks j = some prog' ∧ prog'.Returns P from this.2
  induction h with
  | refl => exact ⟨hj, prog, hp, hR⟩
  | tail _ hstep ih =>
    obtain ⟨a, ha⟩ := hstep
    obtain ⟨hlt, prog', hp', hR'⟩ := ih
    exact Sys.step_returns ha hlt hp' hR'

end Interleaving

/-- In every interleaving, the goroutine of a call, once it has returned, has replied `nil`, or,
for the two user handlers, one of their two errors: the network handlers never fail. -/
theorem call_reply_allowed {cfg : Config} {c : Call} {s s' : Sys}
    (h : Relation.ReflTransGen (Sys.Next cfg) (s.spawn (c.prog cfg)) s') {a : Reply}
    (ha : s'.tasks s.nextTask = some (.pure a)) : c.Replies a := by
  obtain ⟨prog, hp, hR⟩ := Sys.returns_steps h (Nat.lt_succ_self _) (by simp [Sys.spawn])
    (Call.returns_prog cfg c)
  rw [ha, Option.some.injEq] at hp
  subst hp
  cases hR with
  | pure _ h => exact h

/-- `HandleUserInService(10, 7)` on the new manager returns `"SSN entry not found"` for
`(10, 7)` after one step. -/
theorem call_reply_allowed_entryNotFound :
    ∃ s', run Config.default [.exec 0]
        (Sys.init.spawn ((Call.handleUserInService 10 7).prog Config.default)) = some s' ∧
      s'.tasks 0 = some (.pure (.error (.entryNotFound 10 7))) ∧
      (Call.handleUserInService 10 7).Replies (.error (.entryNotFound 10 7)) := by
  have hc : (run Config.default [.exec 0]
      (Sys.init.spawn ((Call.handleUserInService 10 7).prog Config.default))).map (fun s =>
        match s.tasks 0 with
        | some (.pure (.error (.entryNotFound pc ssn))) => decide (pc = 10 ∧ ssn = 7)
        | _ => false) = some true := by decide
  obtain ⟨s', hs', hc⟩ := Option.map_eq_some'.mp hc
  split at hc
  · next pc ssn ha =>
    obtain ⟨rfl, rfl⟩ := of_decide_eq_true hc
    exact ⟨s', hs', ha, call_reply_allowed (run_steps _ _ _ _ hs') ha⟩
  · cases hc

end Sccp.Manager
