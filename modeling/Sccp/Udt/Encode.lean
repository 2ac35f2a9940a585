import Sccp.Udt.Message

/-!
# What the UDT encoder writes

`NewUDT` sets `ptr1 = 3` and adds each address's `MarshalLen() - 1` in `uint8`; `MarshalTo` ends
the address windows at `ptr2 + 3` and `ptr3 + 4`, also in `uint8`. When both addresses fit the
one-octet pointers, the two computations meet: the pointers are Q.713 relative pointers and the
parameters lie one after the other from octet 5.
-/
namespace Sccp

variable {A D : Type}

namespace UDT

/-- `MarshalTo` on a buffer of at least six octets: type, protocol class and pointers fill
octets 0 to 4, and the three parameters are written into the windows `[5, ptr2 + 3)`,
`[ptr2 + 3, ptr3 + 4)` and `[ptr3 + 4, len)`. -/
theorem marshalTo_eq_windows (P : Params A D) (u : UDT A D) {pc : ProtocolClass}
    (hpc : u.protocolClass = some pc) (x₀ x₁ x₂ x₃ x₄ : UInt8) (rest : List UInt8)
    (hr : rest ≠ []) :
    u.marshalTo P (x₀ :: x₁ :: x₂ :: x₃ :: x₄ :: rest) = (do
      let b ← writeParam (← paramBytes P.addressBytes u.calledPartyAddress)
        ([u.type, pc.octet, u.ptr1, u.ptr2, u.ptr3] ++ rest) 5 (u.ptr2 + 3).toNat
      let b ← writeParam (← paramBytes P.addressBytes u.callingPartyAddress) b
        (u.ptr2 + 3).toNat (u.ptr3 + 4).toNat
      writeParam (← paramBytes P.dataBytes u.data) b (u.ptr3 + 4).toNat b.length) := by
  have hlen : 0 < rest.length := List.length_pos.mpr hr
  unfold marshalTo
  simp only [failIf_bind, List.length_cons, if_neg (show ¬rest.length + 1 + 1 + 1 + 1 + 1 < 6 by omega),
    hpc, pure_bind]
  rw [putByte_of_lt _ (by simp), except_ok_bind, ProtocolClass.write_of_lt _ (by simp), except_ok_bind]
  simp only [writeAt, List.set_cons_zero, List.take_succ_cons, List.take_zero, List.drop_succ_cons,
    List.drop_zero, List.cons_append, List.nil_append, List.length_singleton]
  rw [putByte_of_lt _ (by simp), except_ok_bind, putByte_of_lt _ (by simp), except_ok_bind,
    putByte_of_lt _ (by simp), except_ok_bind]
  rfl

/-- Reading back a buffer laid out as a five-octet fixed part and three parameters. -/
theorem fixedPart_layout {b : List UInt8} (t c p₁ p₂ p₃ : UInt8) (x y z tail : List UInt8)
    (hb : b = [t, c, p₁, p₂, p₃] ++ x ++ y ++ z ++ tail) :
    b.getD 0 0 = t ∧ b.getD 1 0 = c ∧ b.getD 2 0 = p₁ ∧ b.getD 3 0 = p₂ ∧ b.getD 4 0 = p₃ ∧
      (b.drop 5).take x.length = x ∧ (b.drop (5 + x.length)).take y.length = y ∧
      (b.drop (5 + x.length + y.length)).take z.length = z ∧
      (b.drop 5).take (x.length + y.length + z.length) = x ++ y ++ z := by
  have hd : ∀ n (l : List UInt8), ([t, c, p₁, p₂, p₃] ++ l).drop (5 + n) = l.drop n := by
    intro n l; rw [Nat.add_comm]; rfl
  subst hb
  simp only [List.append_assoc]
  refine ⟨rfl, rfl, rfl, rfl, rfl, List.take_left x _, ?_, ?_, ?_⟩
  · rw [hd]; simp
  · rw [Nat.add_assoc, hd]; simp
  · show List.take _ (x ++ (y ++ (z ++ tail))) = _
    rw [show x ++ (y ++ (z ++ tail)) = (x ++ (y ++ z)) ++ tail by simp,
      show x.length + y.length + z.length = (x ++ (y ++ z)).length by simp [Nat.add_assoc]]
    exact List.take_left _ _

section NewUDT


variable (P : Params A D) (pcls : Int) (retOnErr : Bool) (cdpa cgpa : A) (data : List UInt8)

@[simp] theorem newUDT_type : (newUDT P pcls retOnErr cdpa cgpa data).type = msgTypeUDT := rfl

@[simp] theorem newUDT_protocolClass :
    (newUDT P pcls retOnErr cdpa cgpa data).protocolClass =
      some (ProtocolClass.newProtocolClass pcls retOnErr) := rfl

@[simp] theorem newUDT_ptr1 : (newUDT P pcls retOnErr cdpa cgpa data).ptr1 = 3 := rfl

@[simp] theorem newUDT_calledPartyAddress :
    (newUDT P pcls retOnErr cdpa cgpa data).calledPartyAddress = some cdpa := rfl

@[simp] theorem newUDT_callingPartyAddress :
    (newUDT P pcls retOnErr cdpa cgpa data).callingPartyAddress = some cgpa := rfl

@[simp] theorem newUDT_data :
    (newUDT P pcls retOnErr cdpa cgpa data).data = some (P.newData data) := rfl

/-- `ptr2 = 3 + uint8(Lcd) - 1` does not wrap for a Called Party Address of at most 253 octets. -/
theorem newUDT_ptr2_toNat (h₂ : (P.addressBytes cdpa).length ≤ 253) :
    (newUDT P pcls retOnErr cdpa cgpa data).ptr2.toNat = 2 + (P.addressBytes cdpa).length := by
  show ((3 : UInt8) + UInt8.ofNat _ - 1).toNat = _
  rw [UInt8.toNat_sub, UInt8.toNat_add, uint8_toNat_ofNat]
  show (256 - 1 + (3 + _ % 256) % 256) % 256 = _
  omega

/-- `ptr3 = ptr2 + uint8(Lcg) - 1` does not wrap while both addresses take at most 254 octets. -/
theorem newUDT_ptr3_toNat
    (h₃ : (P.addressBytes cdpa).length + (P.addressBytes cgpa).length ≤ 253) :
    (newUDT P pcls retOnErr cdpa cgpa data).ptr3.toNat =
      1 + (P.addressBytes cdpa).length + (P.addressBytes cgpa).length := by
  have h := newUDT_ptr2_toNat P pcls retOnErr cdpa cgpa data (by omega)
  show ((newUDT P pcls retOnErr cdpa cgpa data).ptr2 + UInt8.ofNat _ - 1).toNat = _
  rw [UInt8.toNat_sub, UInt8.toNat_add, uint8_toNat_ofNat, h]
  show (256 - 1 + (_ + _ % 256) % 256) % 256 = _
  omega

/-- The Called Party Address window ends at `int(ptr2 + 3) = 5 + Lcd`. -/
theorem newUDT_calledEnd (h₂ : (P.addressBytes cdpa).length ≤ 250) :
    ((newUDT P pcls retOnErr cdpa cgpa data).ptr2 + 3).toNat = 5 + (P.addressBytes cdpa).length := by
  rw [UInt8.toNat_add, newUDT_ptr2_toNat P pcls retOnErr cdpa cgpa data (by omega)]
  show (_ + 3) % 256 = _
  omega

/-- The Calling Party Address window ends at `int(ptr3 + 4) = 5 + Lcd + Lcg`. -/
theorem newUDT_callingEnd
    (h₃ : (P.addressBytes cdpa).length + (P.addressBytes cgpa).length ≤ 250) :
    ((newUDT P pcls retOnErr cdpa cgpa data).ptr3 + 4).toNat =
      5 + (P.addressBytes cdpa).length + (P.addressBytes cgpa).length := by
  rw [UInt8.toNat_add, newUDT_ptr3_toNat P pcls retOnErr cdpa cgpa data (by omega)]
  show (_ + 4) % 256 = _
  omega

/-- With addresses that fit the pointers, the windows are exactly the parameters' lengths:
`MarshalTo` writes the fixed part and the three parameters one after the other, and leaves the
rest of the buffer as it was. -/
theorem marshalTo_newUDT (b : List UInt8)
    (h₃ : (P.addressBytes cdpa).length + (P.addressBytes cgpa).length ≤ 250) (h₆ : 6 ≤ b.length)
    (hb : 5 + (P.addressBytes cdpa).length + (P.addressBytes cgpa).length +
      (P.dataBytes (P.newData data)).length ≤ b.length) :
    (newUDT P pcls retOnErr cdpa cgpa data).marshalTo P b =
      .ok ([msgTypeUDT, (ProtocolClass.newProtocolClass pcls retOnErr).octet, 3,
          (newUDT P pcls retOnErr cdpa cgpa data).ptr2,
          (newUDT P pcls retOnErr cdpa cgpa data).ptr3] ++
        P.addressBytes cdpa ++ P.addressBytes cgpa ++ P.dataBytes (P.newData data) ++
        b.drop (5 + (P.addressBytes cdpa).length + (P.addressBytes cgpa).length +
          (P.dataBytes (P.newData data)).length)) := by
  obtain ⟨x₀, x₁, x₂, x₃, x₄, rest, rfl⟩ :
      ∃ x₀ x₁ x₂ x₃ x₄ rest, b = x₀ :: x₁ :: x₂ :: x₃ :: x₄ :: rest := by
    rcases b with _ | ⟨x₀, _ | ⟨x₁, _ | ⟨x₂, _ | ⟨x₃, _ | ⟨x₄, rest⟩⟩⟩⟩⟩ <;> simp at h₆ ⊢
  simp only [List.length_cons] at hb h₆
  rw [marshalTo_eq_windows P _ (newUDT_protocolClass ..) _ _ _ _ _ rest
      (List.ne_nil_of_length_pos (by omega)),
    newUDT_calledEnd P pcls retOnErr cdpa cgpa data (by omega),
    newUDT_callingEnd P pcls retOnErr cdpa cgpa data h₃]
  simp only [newUDT_calledPartyAddress, newUDT_callingPartyAddress, newUDT_data, paramBytes,
    except_ok_bind, newUDT_type, newUDT_ptr1]
  rw [writeParam_of_le (by omega) (by simp; omega), except_ok_bind,
    @writeAt_append [msgTypeUDT, _, 3, _, _] rest _ 5 rfl,
    writeParam_of_le (by simp) (by simp; omega), except_ok_bind,
    writeAt_append _ _ _ (by simp; omega),
    writeParam_of_le (by simp; omega) le_rfl, writeAt_append _ _ _ (by simp; omega)]
  simp only [List.drop_drop, List.append_assoc, List.cons_append, List.nil_append]
  rw [show 5 + (P.addressBytes cdpa).length + (P.addressBytes cgpa).length +
    (P.dataBytes (P.newData data)).length = (P.addressBytes cdpa).length +
      (P.addressBytes cgpa).length + (P.dataBytes (P.newData data)).length + 5 by omega]
  rfl

end NewUDT

end UDT

open UDT in
/-- `MarshalTo` on a `NewUDT` whose addresses fit the one-octet pointers succeeds on any buffer
long enough for the encoding, and writes a Q.713 relative-pointer layout: type 9, the protocol
class octet, `ptr1 = 3`, and each pointer at octet `i` designating octet `i + b[i]` where its
parameter's encoding starts, the three encodings one after the other from octet 5. -/
theorem udt_marshal_relative_pointers (P : Params A D) (pcls : Int) (retOnErr : Bool)
    (cdpa cgpa : A) (data : List UInt8) (b : List UInt8)
    (h₁ : 1 ≤ (P.addressBytes cdpa).length) (h₂ : 1 ≤ (P.addressBytes cgpa).length)
    (h₃ : (P.addressBytes cdpa).length + (P.addressBytes cgpa).length ≤ 250)
    (hb : 5 + (P.addressBytes cdpa).length + (P.addressBytes cgpa).length +
      (P.dataBytes (P.newData data)).length ≤ b.length) :
    ∃ b', (newUDT P pcls retOnErr cdpa cgpa data).marshalTo P b = .ok b' ∧
      b'.length = b.length ∧ b'.getD 0 0 = msgTypeUDT ∧
      b'.getD 1 0 = (ProtocolClass.newProtocolClass pcls retOnErr).octet ∧ b'.getD 2 0 = 3 ∧
      2 + (b'.getD 2 0).toNat = 5 ∧
      3 + (b'.getD 3 0).toNat = 5 + (P.addressBytes cdpa).length ∧
      4 + (b'.getD 4 0).toNat = 5 + (P.addressBytes cdpa).length + (P.addressBytes cgpa).length ∧
      (b'.drop (2 + (b'.getD 2 0).toNat)).take (P.addressBytes cdpa).length = P.addressBytes cdpa ∧
      (b'.drop (3 + (b'.getD 3 0).toNat)).take (P.addressBytes cgpa).length = P.addressBytes cgpa ∧
      (b'.drop (4 + (b'.getD 4 0).toNat)).take (P.dataBytes (P.newData data)).length =
        P.dataBytes (P.newData data) ∧
      (b'.drop 5).take ((P.addressBytes cdpa).length + (P.addressBytes cgpa).length +
          (P.dataBytes (P.newData data)).length) =
        P.addressBytes cdpa ++ P.addressBytes cgpa ++ P.dataBytes (P.newData data) := by
  have hp₂ := newUDT_ptr2_toNat P pcls retOnErr cdpa cgpa data (by omega)
  have hp₃ := newUDT_ptr3_toNat P pcls retOnErr cdpa cgpa data (by omega)
  refine ⟨_, marshalTo_newUDT P pcls retOnErr cdpa cgpa data b h₃ (by omega) hb, ?_⟩
  obtain ⟨r₀, r₁, r₂, r₃, r₄, rx, ry, rz, rxyz⟩ := fixedPart_layout _ _ _ _ _ _ _ _ _ rfl
  rw [r₀, r₁, r₂, r₃, r₄, hp₂, hp₃]
  refine ⟨by simp; omega, rfl, rfl, rfl, rfl, by omega, by omega, rx, ?_, ?_, rxyz⟩
  · rwa [show 3 + (2 + (P.addressBytes cdpa).length) = 5 + (P.addressBytes cdpa).length by omega]
  · rwa [show 4 + (1 + (P.addressBytes cdpa).length + (P.addressBytes cgpa).length) =
      5 + (P.addressBytes cdpa).length + (P.addressBytes cgpa).length by omega]

/-- Addresses `[1, 2]` and `[3]` and data `[0xAA]`, length-prefixed, in a 12-octet buffer. -/
theorem udt_marshal_relative_pointers_small :
    1 ≤ (Params.lengthPrefixed.addressBytes [1, 2]).length ∧
      1 ≤ (Params.lengthPrefixed.addressBytes [3]).length ∧
      (Params.lengthPrefixed.addressBytes [1, 2]).length +
        (Params.lengthPrefixed.addressBytes [3]).length ≤ 250 ∧
      5 + (Params.lengthPrefixed.addressBytes [1, 2]).length +
          (Params.lengthPrefixed.addressBytes [3]).length +
          (Params.lengthPrefixed.dataBytes (Params.lengthPrefixed.newData [0xAA])).length ≤
        (List.replicate 12 (0 : UInt8)).length ∧
      ∃ b', (UDT.newUDT Params.lengthPrefixed 1 true [1, 2] [3] [0xAA]).marshalTo
          Params.lengthPrefixed (List.replicate 12 0) = .ok b' ∧
        b'.length = (List.replicate 12 (0 : UInt8)).length ∧ b'.getD 0 0 = msgTypeUDT ∧
        b'.getD 1 0 = (ProtocolClass.newProtocolClass 1 true).octet ∧ b'.getD 2 0 = 3 ∧
        2 + (b'.getD 2 0).toNat = 5 ∧
        3 + (b'.getD 3 0).toNat = 5 + (Params.lengthPrefixed.addressBytes [1, 2]).length ∧
        4 + (b'.getD 4 0).toNat = 5 + (Params.lengthPrefixed.addressBytes [1, 2]).length +
          (Params.lengthPrefixed.addressBytes [3]).length ∧
        (b'.drop (2 + (b'.getD 2 0).toNat)).take
            (Params.lengthPrefixed.addressBytes [1, 2]).length =
          Params.lengthPrefixed.addressBytes [1, 2] ∧
        (b'.drop (3 + (b'.getD 3 0).toNat)).take (Params.lengthPrefixed.addressBytes [3]).length =
          Params.lengthPrefixed.addressBytes [3] ∧
        (b'.drop (4 + (b'.getD 4 0).toNat)).take
            (Params.lengthPrefixed.dataBytes (Params.lengthPrefixed.newData [0xAA])).length =
          Params.lengthPrefixed.dataBytes (Params.lengthPrefixed.newData [0xAA]) ∧
        (b'.drop 5).take ((Params.lengthPrefixed.addressBytes [1, 2]).length +
            (Params.lengthPrefixed.addressBytes [3]).length +
            (Params.lengthPrefixed.dataBytes (Params.lengthPrefixed.newData [0xAA])).length) =
          Params.lengthPrefixed.addressBytes [1, 2] ++ Params.lengthPrefixed.addressBytes [3] ++
            Params.lengthPrefixed.dataBytes (Params.lengthPrefixed.newData [0xAA]) :=
  ⟨by decide, by decide, by decide, by decide,
    udt_marshal_relative_pointers Params.lengthPrefixed 1 true [1, 2] [3] [0xAA]
      (List.replicate 12 0) (by decide) (by decide) (by decide) (by decide)⟩

end Sccp
