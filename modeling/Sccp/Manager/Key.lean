import Sccp.Manager.Prog

/-!
# SSN state manager: the registry's keys

`getKey` formats the map key as `fmt.Sprintf("%d:%d", pc, ssn)`; the model keys the registry by
the pair `(pc, ssn)` instead (`Key`). That stands for the string because the format is injective:
a decimal numeral has no `:`, so the only `:` of a key is where the point code ends, and a
numeral determines its number (`getKeyString_inj`).
-/
namespace Sccp.Manager

/-- `fmt.Sprintf("%d:%d", pc, ssn)`: `toString` of a `UInt16` or a `UInt8` is its decimal numeral,
as `%d` prints it. -/
def getKeyString (pc : UInt16) (ssn : UInt8) : String := toString pc ++ ":" ++ toString ssn

section Decimal

/-- One step of `Nat.toDigitsCore` in base 10, as its definition reads. -/
theorem toDigitsCore_succ (f n : Nat) (ds : List Char) :
    Nat.toDigitsCore 10 (f + 1) n ds = if n / 10 = 0 then Nat.digitChar (n % 10) :: ds
      else Nat.toDigitsCore 10 f (n / 10) (Nat.digitChar (n % 10) :: ds) := rfl

/-- `Nat.toDigitsCore` puts each digit in front of what it was given. -/
theorem toDigitsCore_append : ∀ (f n : Nat) (ds es : List Char),
    Nat.toDigitsCore 10 f n (ds ++ es) = Nat.toDigitsCore 10 f n ds ++ es
  | 0, _, _, _ => rfl
  | f + 1, n, ds, es => by
    rw [toDigitsCore_succ, toDigitsCore_succ]
    split
    · rfl
    · exact toDigitsCore_append f (n / 10) (_ :: ds) es

/-- Fuel beyond the number itself does not change its digits. -/
theorem toDigitsCore_fuel : ∀ (f g n : Nat) (ds : List Char), n < f → n < g →
    Nat.toDigitsCore 10 f n ds = Nat.toDigitsCore 10 g n ds
  | 0, _, _, _, h, _ | _, 0, _, _, _, h => absurd h (Nat.not_lt_zero _)
  | f + 1, g + 1, n, ds, hf, hg => by
    rw [toDigitsCore_succ, toDigitsCore_succ]
    split
    · rfl
    · exact toDigitsCore_fuel f g (n / 10) _ (by omega) (by omega)

/-- The decimal numeral of `n` is that of `n / 10`, unless that is zero, then its last digit. -/
theorem toDigits_ten (n : Nat) : Nat.toDigits 10 n =
    (if n / 10 = 0 then [] else Nat.toDigits 10 (n / 10)) ++ [Nat.digitChar (n % 10)] := by
  show Nat.toDigitsCore 10 (n + 1) n [] = _
  rw [toDigitsCore_succ]
  split
  · rfl
  · exact (toDigitsCore_append n (n / 10) [] _).trans
      (congrArg (· ++ _) (toDigitsCore_fuel n (n / 10 + 1) (n / 10) [] (by omega) (by omega)))

/-- A decimal digit's character gives the digit back. -/
theorem digitChar_sub_zero {d : Nat} (hd : d < 10) : (Nat.digitChar d).toNat - 48 = d :=
  (by decide : ∀ d < 10, (Nat.digitChar d).toNat - 48 = d) d hd

theorem digitChar_ne_colon {d : Nat} (hd : d < 10) : Nat.digitChar d ≠ ':' :=
  (by decide : ∀ d < 10, Nat.digitChar d ≠ ':') d hd

/-- A decimal numeral has no `:`. -/
theorem colon_not_mem_toDigits (n : Nat) : ':' ∉ Nat.toDigits 10 n := by
  induction n using Nat.strong_induction_on with
  | _ n ih =>
  rw [toDigits_ten]
  intro h
  rcases List.mem_append.mp h with h | h
  · split at h
    · cases h
    · exact ih (n / 10) (by omega) h
  · exact digitChar_ne_colon (Nat.mod_lt n (by omega)) (List.mem_singleton.mp h).symm

theorem toDigits_ne_nil (n : Nat) : Nat.toDigits 10 n ≠ [] := by
  rw [toDigits_ten]
  exact List.append_ne_nil_of_right_ne_nil _ (List.cons_ne_nil _ _)

/-- A decimal numeral determines its number. -/
theorem toDigits_ten_inj {a b : Nat} (h : Nat.toDigits 10 a = Nat.toDigits 10 b) : a = b := by
  induction a using Nat.strong_induction_on generalizing b with
  | _ a ih =>
  rw [toDigits_ten a, toDigits_ten b] at h
  obtain ⟨hq, hr⟩ := List.append_inj' h rfl
  have hmod : a % 10 = b % 10 := by
    rw [← digitChar_sub_zero (Nat.mod_lt a (by omega)),
      ← digitChar_sub_zero (Nat.mod_lt b (by omega)), List.singleton_inj.mp hr]
  have hdiv : a / 10 = b / 10 := by
    split at hq <;> split at hq
    · omega
    · exact absurd hq.symm (toDigits_ne_nil _)
    · exact absurd hq (toDigits_ne_nil _)
    · exact ih _ (by omega) hq
  omega

end Decimal

/-- Two calls make the same map key exactly for the same point code and SSN: the registry, keyed
by these strings, is keyed by the pairs `getKey` returns. -/
theorem getKeyString_inj (pc pc' : UInt16) (ssn ssn' : UInt8) :
    getKeyString pc ssn = getKeyString pc' ssn' ↔ getKey pc ssn = getKey pc' ssn' := by
  refine ⟨fun h => ?_, fun h => by cases h; rfl⟩
  -- `toString` of a `UInt16` or a `UInt8` is `Nat.repr` of its value, whose characters are
  -- its decimal digits
  have h : (Nat.toDigits 10 pc.toNat ++ [':']) ++ Nat.toDigits 10 ssn.toNat =
      (Nat.toDigits 10 pc'.toNat ++ [':']) ++ Nat.toDigits 10 ssn'.toNat := congrArg String.data h
  simp only [List.append_assoc, List.singleton_append] at h
  obtain ⟨hpc, -, hssn⟩ := (List.append_cons_inj_of_not_mem (colon_not_mem_toDigits _)
    (colon_not_mem_toDigits _)).mp h
  rw [getKey, getKey, UInt16.toNat.inj (toDigits_ten_inj hpc),
    UInt8.toNat.inj (toDigits_ten_inj hssn)]

end Sccp.Manager
