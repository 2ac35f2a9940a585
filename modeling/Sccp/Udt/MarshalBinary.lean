import Sccp.Udt.RoundTrip

/-!
# What `MarshalBinary` returns for a `NewUDT`

`MarshalLen` counts six fixed octets (the SLS among them, which `MarshalTo` never writes), twelve
octets for each address whatever its length, and one octet more than the data's own `MarshalLen`:
`31 + Ld` in all (`marshalLen_newUDT`). `MarshalTo` writes `5 + Lcd + Lcg + Ld` octets
(`newUDTWire`). So `MarshalBinary` succeeds exactly when the two addresses take at most 26 octets,
and then returns the encoding padded with `26 - Lcd - Lcg` zero octets
(`udt_marshalBinary_fixed_budget`); on the spec's scenario S3 those are two trailing zeros.

`MarshalTo` checks only `len(b) >= 6` before it slices `b[5:ptr2+3]`. When the Called Party
Address is longer than the budget, that slice runs past the buffer `MarshalBinary` makes; when it
is so long that `ptr2 + 3` wraps around in `uint8`, the slice is reversed, whatever the buffer
(`udt_marshalTo_panics`). Both are run-time panics.
-/
namespace Sccp

variable {A D : Type}

namespace UDT

section NewUDT

variable (P : Params A D) (pcls : Int) (retOnErr : Bool) (cdpa cgpa : A) (data : List UInt8)

/-- The octets `MarshalTo` writes for a `NewUDT`: type, protocol class and the three pointers,
then the Called Party Address, the Calling Party Address and the Data one after the other. -/
def newUDTWire : List UInt8 :=
  [msgTypeUDT, (ProtocolClass.newProtocolClass pcls retOnErr).octet, 3,
      (newUDT P pcls retOnErr cdpa cgpa data).ptr2, (newUDT P pcls retOnErr cdpa cgpa data).ptr3] ++
    P.addressBytes cdpa ++ P.addressBytes cgpa ++ P.dataBytes (P.newData data)

@[simp] theorem length_newUDTWire :
    (newUDTWire P pcls retOnErr cdpa cgpa data).length = 5 + (P.addressBytes cdpa).length +
      (P.addressBytes cgpa).length + (P.dataBytes (P.newData data)).length := by
  simp [newUDTWire]
  omega

/-- `MarshalLen` of a `NewUDT` does not depend on its addresses. -/
@[simp] theorem marshalLen_newUDT :
    (newUDT P pcls retOnErr cdpa cgpa data).marshalLen P =
      31 + (P.dataBytes (P.newData data)).length := by
  show 6 + (1 + 11) + (1 + 11) + (1 + (P.dataBytes (P.newData data)).length) = _
  omega

/-- The end `int(ptr2 + 3)` of the Called Party Address window, wrapped as `uint8` sums wrap. -/
theorem newUDT_calledEnd_toNat :
    ((newUDT P pcls retOnErr cdpa cgpa data).ptr2 + 3).toNat =
      ((P.addressBytes cdpa).length + 5) % 256 := by
  show ((3 : UInt8) + UInt8.ofNat _ - 1 + 3).toNat = _
  rw [UInt8.toNat_add, UInt8.toNat_sub, UInt8.toNat_add, uint8_toNat_ofNat]
  show ((256 - 1 + (3 + _ % 256) % 256) % 256 + 3) % 256 = _
  omega

/-- `MarshalBinary` writes the fixed part into `31 + Ld` zero octets and then the three
parameters into the windows the pointers give. -/
theorem marshalBinary_newUDT_eq :
    (newUDT P pcls retOnErr cdpa cgpa data).marshalBinary P = (do
      let b ← writeParam (P.addressBytes cdpa)
        ([msgTypeUDT, (ProtocolClass.newProtocolClass pcls retOnErr).octet, 3,
            (newUDT P pcls retOnErr cdpa cgpa data).ptr2,
            (newUDT P pcls retOnErr cdpa cgpa data).ptr3] ++
          List.replicate (26 + (P.dataBytes (P.newData data)).length) 0)
        5 ((newUDT P pcls retOnErr cdpa cgpa data).ptr2 + 3).toNat
      let b ← writeParam (P.addressBytes cgpa) b
        ((newUDT P pcls retOnErr cdpa cgpa data).ptr2 + 3).toNat
        ((newUDT P pcls retOnErr cdpa cgpa data).ptr3 + 4).toNat
      writeParam (P.dataBytes (P.newData data)) b
        ((newUDT P pcls retOnErr cdpa cgpa data).ptr3 + 4).toNat b.length) := by
  rw [marshalBinary, marshalLen_newUDT, show 31 + (P.dataBytes (P.newData data)).length =
      26 + (P.dataBytes (P.newData data)).length + 1 + 1 + 1 + 1 + 1 by omega]
  simp only [List.replicate_succ]
  rw [marshalTo_eq_windows P _ (newUDT_protocolClass ..) _ _ _ _ _ _ (by simp)]
  simp only [newUDT_calledPartyAddress, newUDT_callingPartyAddress, newUDT_data, paramBytes,
    except_ok_bind, newUDT_type, newUDT_ptr1]

/-- `MarshalBinary` succeeds only when the two addresses fit the twelve octets `MarshalLen`
counts for each: the last window must still hold the data. -/
theorem addresses_le_of_marshalBinary {bytes : List UInt8}
    (h : (newUDT P pcls retOnErr cdpa cgpa data).marshalBinary P = .ok bytes) :
    (P.addressBytes cdpa).length + (P.addressBytes cgpa).length ≤ 26 := by
  rw [marshalBinary_newUDT_eq] at h
  obtain ⟨b₁, h₁, h⟩ := except_bind_eq_ok.mp h
  obtain ⟨b₂, h₂, h₃⟩ := except_bind_eq_ok.mp h
  obtain ⟨c₁, d₁, rfl⟩ := writeParam_eq_ok.mp h₁
  obtain ⟨c₂, d₂, rfl⟩ := writeParam_eq_ok.mp h₂
  obtain ⟨c₃, -, -⟩ := writeParam_eq_ok.mp h₃
  have hlen₁ := length_writeAt _ _ _ (Nat.le_trans c₁ d₁)
  have hlen₂ := length_writeAt _ _ _ (Nat.le_trans c₂ d₂)
  rw [hlen₂, hlen₁] at c₃
  simp only [List.length_append, List.length_cons, List.length_nil, List.length_replicate] at c₃
  omega

end NewUDT

end UDT

open UDT

/-- For every `NewUDT`, `MarshalLen` is `31 + Ld` whatever the addresses' lengths, while
`MarshalTo` writes the `5 + Lcd + Lcg + Ld` octets of `newUDTWire` into any buffer long enough,
when the addresses fit the one-octet pointers. `MarshalBinary` succeeds exactly when
`Lcd + Lcg ≤ 26`, and returns the encoding followed by `26 - Lcd - Lcg` zero octets. -/
theorem udt_marshalBinary_fixed_budget (P : Params A D) (pcls : Int) (retOnErr : Bool)
    (cdpa cgpa : A) (data : List UInt8) :
    (newUDT P pcls retOnErr cdpa cgpa data).marshalLen P =
        31 + (P.dataBytes (P.newData data)).length ∧
      (∀ b : List UInt8, (P.addressBytes cdpa).length + (P.addressBytes cgpa).length ≤ 250 →
        6 ≤ b.length → (newUDTWire P pcls retOnErr cdpa cgpa data).length ≤ b.length →
        (newUDT P pcls retOnErr cdpa cgpa data).marshalTo P b =
          .ok (newUDTWire P pcls retOnErr cdpa cgpa data ++
            b.drop (newUDTWire P pcls retOnErr cdpa cgpa data).length)) ∧
      ∀ bytes, (newUDT P pcls retOnErr cdpa cgpa data).marshalBinary P = .ok bytes ↔
        (P.addressBytes cdpa).length + (P.addressBytes cgpa).length ≤ 26 ∧
          bytes = newUDTWire P pcls retOnErr cdpa cgpa data ++
            List.replicate (26 - ((P.addressBytes cdpa).length + (P.addressBytes cgpa).length)) 0 := by
  have hto : ∀ b : List UInt8, (P.addressBytes cdpa).length + (P.addressBytes cgpa).length ≤ 250 →
      6 ≤ b.length → (newUDTWire P pcls retOnErr cdpa cgpa data).length ≤ b.length →
      (newUDT P pcls retOnErr cdpa cgpa data).marshalTo P b =
        .ok (newUDTWire P pcls retOnErr cdpa cgpa data ++
          b.drop (newUDTWire P pcls retOnErr cdpa cgpa data).length) := fun b hfit h₆ hb => by
    rw [length_newUDTWire] at hb ⊢
    exact marshalTo_newUDT P pcls retOnErr cdpa cgpa data b hfit h₆ hb
  refine ⟨marshalLen_newUDT .., hto, fun bytes => ⟨fun h => ?_, ?_⟩⟩
  · have hle := addresses_le_of_marshalBinary P pcls retOnErr cdpa cgpa data h
    refine ⟨hle, ?_⟩
    rw [marshalBinary, hto _ (by omega) (by simp; omega) (by simp; omega)] at h
    simp only [Except.ok.injEq, List.drop_replicate, List.length_replicate, marshalLen_newUDT,
      length_newUDTWire] at h
    rw [← h]
    congr 2
    omega
  · rintro ⟨hle, rfl⟩
    rw [marshalBinary, hto _ (by omega) (by simp; omega) (by simp; omega)]
    simp only [List.drop_replicate, List.length_replicate, marshalLen_newUDT, length_newUDTWire]
    congr 3
    omega

/-- Scenario S3: `MarshalLen` is 35 where the encoding has 33 octets, and `MarshalBinary` returns
the encoding followed by two zero octets. -/
example :
    (newUDT Params.lengthPrefixed 1 true (s3Address 0x11) (s3Address 0x22)
        [0xAA, 0xBB, 0xCC]).marshalLen Params.lengthPrefixed = 35 ∧
      (newUDTWire Params.lengthPrefixed 1 true (s3Address 0x11) (s3Address 0x22)
        [0xAA, 0xBB, 0xCC]).length = 33 ∧
      (newUDT Params.lengthPrefixed 1 true (s3Address 0x11) (s3Address 0x22)
          [0xAA, 0xBB, 0xCC]).marshalBinary Params.lengthPrefixed =
        .ok (newUDTWire Params.lengthPrefixed 1 true (s3Address 0x11) (s3Address 0x22)
          [0xAA, 0xBB, 0xCC] ++ [0, 0]) :=
  ⟨rfl, rfl, rfl⟩

/-- `MarshalTo` panics on a `NewUDT` whose Called Party Address is too long: in the buffer
`MarshalBinary` makes once `Lcd` exceeds the budget of `26 + Ld` octets, and in every buffer
`MarshalTo` does not reject when `ptr2 + 3` wraps around to a value below 5. -/
theorem udt_marshalTo_panics (P : Params A D) (pcls : Int) (retOnErr : Bool) (cdpa cgpa : A)
    (data : List UInt8) :
    (26 + (P.dataBytes (P.newData data)).length < (P.addressBytes cdpa).length →
      (P.addressBytes cdpa).length ≤ 250 →
      (newUDT P pcls retOnErr cdpa cgpa data).marshalBinary P = .error .indexOutOfRange) ∧
    (251 ≤ (P.addressBytes cdpa).length → (P.addressBytes cdpa).length ≤ 255 →
      ∀ b : List UInt8, 6 ≤ b.length →
        (newUDT P pcls retOnErr cdpa cgpa data).marshalTo P b = .error .indexOutOfRange) := by
  refine ⟨fun hlong hfit => ?_, fun hlo hhi b h₆ => ?_⟩
  · rw [marshalBinary_newUDT_eq, writeParam_of_not_range (by
      simp only [newUDT_calledEnd_toNat, List.length_append, List.length_cons, List.length_nil,
        List.length_replicate]
      omega)]
    rfl
  · obtain ⟨x₀, x₁, x₂, x₃, x₄, rest, rfl⟩ :
        ∃ x₀ x₁ x₂ x₃ x₄ rest, b = x₀ :: x₁ :: x₂ :: x₃ :: x₄ :: rest := by
      rcases b with _ | ⟨x₀, _ | ⟨x₁, _ | ⟨x₂, _ | ⟨x₃, _ | ⟨x₄, rest⟩⟩⟩⟩⟩ <;> simp at h₆ ⊢
    simp only [List.length_cons] at h₆
    rw [marshalTo_eq_windows P _ (newUDT_protocolClass ..) _ _ _ _ _ rest
      (List.ne_nil_of_length_pos (by omega)), newUDT_calledPartyAddress, paramBytes,
      except_ok_bind, writeParam_of_not_range (by rw [newUDT_calledEnd_toNat]; omega)]
    rfl

/-- Two 31-octet addresses and empty data: `MarshalLen` budgets 32 octets and `MarshalTo`
slices `b[5:36]`. -/
example : (newUDT Params.lengthPrefixed 1 true (List.replicate 30 1) (List.replicate 30 2)
    []).marshalBinary Params.lengthPrefixed = .error .indexOutOfRange := rfl

end Sccp
