import Sccp.Udt.Message

/-!
# What the UDT decoder reads

`UnmarshalBinary` takes the octet after the type as its first pointer and finds the Calling
Party Address and the Data where the region before them ends; it reads no protocol class.
`unmarshalBinary_eq` states this once: the decoder fails with `io.ErrUnexpectedEOF` exactly when
the chain of three length-prefixed regions does not fit, and otherwise hands those regions to the
sub-decoders. Everything below is derived from it: no index or slice of the decoder is ever out
of range, the decoder is not the Q.713 pointer decoder (a well-formed Q.713 frame is rejected),
and `ParseMessage` returns exactly what one decode of a fresh receiver returns.
-/
namespace Sccp

variable {A D X : Type}

namespace UDT

/-- `offsetPtr1`: where the decoder looks for the Called Party Address. -/
def calledOffset (b : List UInt8) : Nat := 1 + (b.getD 1 0).toNat

/-- The end of the length-prefixed region that starts at `o`. -/
def regionEnd (b : List UInt8) (o : Nat) : Nat := o + (b.getD o 0).toNat + 1

/-- `offsetPtr2`, the end of the Called Party Address. -/
def callingOffset (b : List UInt8) : Nat := regionEnd b (calledOffset b)

/-- `offsetPtr3`, the end of the Calling Party Address. -/
def dataOffset (b : List UInt8) : Nat := regionEnd b (callingOffset b)

/-- `dataEnd`. -/
def dataEnd (b : List UInt8) : Nat := regionEnd b (dataOffset b)

/-- Every bounds check of `UnmarshalBinary` passes. -/
def RegionsFit (b : List UInt8) : Prop :=
  5 ≤ b.length ∧ calledOffset b < b.length ∧ callingOffset b < b.length ∧
    dataOffset b < b.length ∧ dataEnd b ≤ b.length

instance : DecidablePred RegionsFit := fun _ => inferInstanceAs (Decidable (_ ∧ _))

/-- The slices handed to `ParseCalledPartyAddress`, `ParseCallingPartyAddress` and
`Data.Read`. -/
def calledRegion (b : List UInt8) : List UInt8 := (b.take (callingOffset b)).drop (calledOffset b)
def callingRegion (b : List UInt8) : List UInt8 := (b.take (dataOffset b)).drop (callingOffset b)
def dataRegion (b : List UInt8) : List UInt8 := (b.take (dataEnd b)).drop (dataOffset b)

/-- The decoder once its bounds checks have passed. -/
def decodeRegions (P : Params A D) (u : UDT A D) (b : List UInt8) : Except CodecError (UDT A D) := do
  let cdpa ← P.parseCalledPartyAddress (calledRegion b)
  let cgpa ← P.parseCallingPartyAddress (callingRegion b)
  let data ← P.dataRead (dataRegion b)
  return { u with
    type := b.getD 0 0, ptr1 := b.getD 1 0, ptr2 := b.getD 2 0, ptr3 := b.getD 3 0
    calledPartyAddress := some cdpa, callingPartyAddress := some cgpa, data := some data }

theorem calledOffset_lt_callingOffset (b : List UInt8) : calledOffset b < callingOffset b := by
  unfold callingOffset regionEnd; omega

theorem callingOffset_lt_dataOffset (b : List UInt8) : callingOffset b < dataOffset b := by
  unfold dataOffset regionEnd; omega

theorem dataOffset_lt_dataEnd (b : List UInt8) : dataOffset b < dataEnd b := by
  unfold dataEnd regionEnd; omega

/-- The decoder, said once: every failed bounds check is `io.ErrUnexpectedEOF`, and past them it
is `decodeRegions`. -/
theorem unmarshalBinary_eq (P : Params A D) (u : UDT A D) (b : List UInt8) :
    u.unmarshalBinary P b =
      if RegionsFit b then decodeRegions P u b else .error .unexpectedEOF := by
  unfold unmarshalBinary
  by_cases h4 : b.length ≤ 4
  · simp only [failIf_bind, if_pos h4]
    rw [if_neg (fun h => by unfold RegionsFit at h; omega)]
  simp only [failIf_bind, if_neg h4, getByte_of_lt (show 0 < b.length by omega),
    getByte_of_lt (show 1 < b.length by omega), getByte_of_lt (show 1 + 1 < b.length by omega),
    getByte_of_lt (show 1 + 2 < b.length by omega), except_ok_bind]
  rw [show 1 + (b.getD 1 0).toNat = calledOffset b from rfl]
  by_cases h1 : b.length < calledOffset b + 1
  · rw [if_pos h1, if_neg (fun h => by unfold RegionsFit at h; omega)]
  rw [if_neg h1, getByte_of_lt (by omega), except_ok_bind,
    show calledOffset b + (b.getD (calledOffset b) 0).toNat + 1 = callingOffset b from rfl]
  by_cases h2 : b.length < callingOffset b + 1
  · rw [if_pos h2, if_neg (fun h => by unfold RegionsFit at h; omega)]
  rw [if_neg h2, getByte_of_lt (by omega), except_ok_bind,
    show callingOffset b + (b.getD (callingOffset b) 0).toNat + 1 = dataOffset b from rfl]
  by_cases h3 : b.length < dataOffset b + 1
  · rw [if_pos h3, if_neg (fun h => by unfold RegionsFit at h; omega)]
  rw [if_neg h3, getByte_of_lt (by omega), except_ok_bind,
    show dataOffset b + (b.getD (dataOffset b) 0).toNat + 1 = dataEnd b from rfl]
  by_cases h5 : b.length < dataEnd b
  · rw [if_pos (Or.inr (Or.inr h5)), if_neg (fun h => by unfold RegionsFit at h; omega)]
  have hfit : RegionsFit b := ⟨by omega, by omega, by omega, by omega, by omega⟩
  have h₁ := calledOffset_lt_callingOffset b
  have h₂ := callingOffset_lt_dataOffset b
  have h₃ := dataOffset_lt_dataEnd b
  rw [if_neg (by omega), if_pos hfit, sliceRange_of_le h₁.le (by omega),
    sliceRange_of_le h₂.le (by omega), sliceRange_of_le h₃.le (by omega), except_ok_bind]
  rfl

/-- A decode that fails past the bounds checks fails with a sub-decoder's own error. -/
theorem decodeRegions_error {P : Params A D} {u : UDT A D} {b : List UInt8} {e : CodecError}
    (h : decodeRegions P u b = .error e) :
    P.parseCalledPartyAddress (calledRegion b) = .error e ∨
      P.parseCallingPartyAddress (callingRegion b) = .error e ∨
      P.dataRead (dataRegion b) = .error e := by
  unfold decodeRegions at h
  rcases except_bind_eq_error.mp h with h | ⟨_, -, h⟩
  · exact .inl h
  rcases except_bind_eq_error.mp h with h | ⟨_, -, h⟩
  · exact .inr (.inl h)
  rcases except_bind_eq_error.mp h with h | ⟨_, -, h⟩
  · exact .inr (.inr h)
  · cases h

/-- The values a successful decode stores: the sub-decoders' results on the three regions, with
the receiver's protocol class and SLS untouched. -/
theorem decodeRegions_ok {P : Params A D} {u u' : UDT A D} {b : List UInt8}
    (h : decodeRegions P u b = .ok u') :
    ∃ cdpa cgpa data, P.parseCalledPartyAddress (calledRegion b) = .ok cdpa ∧
      P.parseCallingPartyAddress (callingRegion b) = .ok cgpa ∧
      P.dataRead (dataRegion b) = .ok data ∧
      u' = { u with
        type := b.getD 0 0, ptr1 := b.getD 1 0, ptr2 := b.getD 2 0, ptr3 := b.getD 3 0
        calledPartyAddress := some cdpa, callingPartyAddress := some cgpa, data := some data } := by
  unfold decodeRegions at h
  obtain ⟨cdpa, h₁, h⟩ := except_bind_eq_ok.mp h
  obtain ⟨cgpa, h₂, h⟩ := except_bind_eq_ok.mp h
  obtain ⟨data, h₃, h⟩ := except_bind_eq_ok.mp h
  exact ⟨cdpa, cgpa, data, h₁, h₂, h₃, (Except.ok.inj h).symm⟩

theorem unmarshalBinary_protocolClass {P : Params A D} {u u' : UDT A D} {b : List UInt8}
    (h : u.unmarshalBinary P b = .ok u') : u'.protocolClass = u.protocolClass := by
  rw [unmarshalBinary_eq] at h
  split_ifs at h
  obtain ⟨_, _, _, _, _, _, rfl⟩ := decodeRegions_ok h
  rfl

/-- Decoding the same octets again into the decoded value changes nothing. -/
theorem unmarshalBinary_idem {P : Params A D} {u u' : UDT A D} {b : List UInt8}
    (h : u.unmarshalBinary P b = .ok u') : u'.unmarshalBinary P b = .ok u' := by
  rw [unmarshalBinary_eq] at h ⊢
  split_ifs at h ⊢ with hfit
  obtain ⟨cdpa, cgpa, data, h₁, h₂, h₃, rfl⟩ := decodeRegions_ok h
  simp [decodeRegions, h₁, h₂, h₃]

end UDT

open UDT in
/-- `ParseMessage` on a UDT frame is one decode into a fresh receiver: the second
`UnmarshalBinary` repeats the first, and only an error of the first is wrapped. -/
theorem parseMessage_udt (P : Params A D) (x : List UInt8 → Except CodecError X)
    (rest : List UInt8) :
    parseMessage P x (msgTypeUDT :: rest) =
      match (UDT.empty : UDT A D).unmarshalBinary P (msgTypeUDT :: rest) with
      | .error e => .error (wrapError .parseUDT e)
      | .ok u => .ok (.udt u) := by
  simp only [parseMessage, if_pos]
  cases h : (UDT.empty : UDT A D).unmarshalBinary P (msgTypeUDT :: rest) with
  | error e => rfl
  | ok u => simp [unmarshalBinary_idem h, Except.map]

open UDT in
/-- No index or slice of the decoder is out of range. It fails with `io.ErrUnexpectedEOF`, or it
hands the sub-decoders three consecutive regions of `b`, each a length octet `L` followed by `L`
octets, and returns what they return; so a panic that `ParseMessage` returns for a UDT frame is
one a sub-decoder returned on one of those regions. -/
theorem udt_unmarshal_slices_in_bounds (P : Params A D) (u : UDT A D) (b : List UInt8) :
    (u.unmarshalBinary P b = .error .unexpectedEOF ∨
      ∃ o₁ o₂ o₃ e : Nat, 5 ≤ b.length ∧ o₁ < o₂ ∧ o₂ < o₃ ∧ o₃ < e ∧ e ≤ b.length ∧
        o₂ = o₁ + 1 + (b.getD o₁ 0).toNat ∧ o₃ = o₂ + 1 + (b.getD o₂ 0).toNat ∧
        e = o₃ + 1 + (b.getD o₃ 0).toNat ∧
        u.unmarshalBinary P b = (do
          let cdpa ← P.parseCalledPartyAddress ((b.take o₂).drop o₁)
          let cgpa ← P.parseCallingPartyAddress ((b.take o₃).drop o₂)
          let data ← P.dataRead ((b.take e).drop o₃)
          return { u with
            type := b.getD 0 0, ptr1 := b.getD 1 0, ptr2 := b.getD 2 0, ptr3 := b.getD 3 0
            calledPartyAddress := some cdpa, callingPartyAddress := some cgpa,
            data := some data })) ∧
    ∀ (x : List UInt8 → Except CodecError X) (rest : List UInt8) (err : CodecError),
      b = msgTypeUDT :: rest → parseMessage P x b = .error err → err.isPanic →
        P.parseCalledPartyAddress (calledRegion b) = .error err ∨
          P.parseCallingPartyAddress (callingRegion b) = .error err ∨
          P.dataRead (dataRegion b) = .error err := by
  refine ⟨?_, fun x rest err hb h hp => ?_⟩
  · rw [unmarshalBinary_eq]
    split_ifs with hfit
    · obtain ⟨h5, -, -, -, he⟩ := hfit
      refine .inr ⟨_, _, _, _, h5, calledOffset_lt_callingOffset b, callingOffset_lt_dataOffset b,
        dataOffset_lt_dataEnd b, he, ?_, ?_, ?_, rfl⟩ <;>
        simp only [callingOffset, dataOffset, dataEnd, regionEnd] <;> omega
    · exact .inl rfl
  · subst hb
    rw [parseMessage_udt] at h
    split at h
    · rename_i e he
      simp only [Except.error.injEq] at h
      subst h
      unfold wrapError at hp ⊢
      split_ifs at hp ⊢ with hpe
      · rw [unmarshalBinary_eq] at he
        split_ifs at he
        · exact decodeRegions_error he
        · cases he; cases hpe
      · cases hp
    · cases h

open UDT in
/-- With a Called Party Address decoder that panics, `ParseMessage` returns that panic for the
frame `[9, 3, 0, 0, 0, 0, 0]`, and it is the sub-decoder's on one of the three regions. -/
theorem udt_unmarshal_slices_in_bounds_panic :
    let P : Params (List UInt8) (List UInt8) :=
      { Params.lengthPrefixed with parseCalledPartyAddress := fun _ => .error .indexOutOfRange }
    let b : List UInt8 := [9, 3, 0, 0, 0, 0, 0]
    parseMessage P (fun _ => (.ok () : Except CodecError Unit)) b = .error .indexOutOfRange ∧
      (P.parseCalledPartyAddress (calledRegion b) = .error .indexOutOfRange ∨
        P.parseCallingPartyAddress (callingRegion b) = .error .indexOutOfRange ∨
        P.dataRead (dataRegion b) = .error .indexOutOfRange) :=
  ⟨rfl, (udt_unmarshal_slices_in_bounds _ empty _).2 (fun _ => .ok ()) _ _ rfl rfl rfl⟩

namespace UDT

/-- The target of the Q.713 pointer at octet `i`: `i + b[i]`. -/
def q713Target (b : List UInt8) (i : Nat) : Nat := i + (b.getD i 0).toNat

/-- The parameter the Q.713 pointer at octet `i` designates: its length octet and contents. -/
def q713Region (b : List UInt8) (i : Nat) : List UInt8 :=
  (b.take (regionEnd b (q713Target b i))).drop (q713Target b i)

/-- A well-formed Q.713 UDT frame as the spec lays it out (§4.3): a protocol class of class 0 or
1 at octet 1, and pointers at octets 2, 3, 4 to length-prefixed regions inside the frame. -/
def Q713WellFormed (b : List UInt8) : Prop :=
  5 ≤ b.length ∧ (ProtocolClass.mk (b.getD 1 0)).getProtocolClass ≤ 1 ∧
    ∀ i ∈ [2, 3, 4], q713Target b i < b.length ∧ regionEnd b (q713Target b i) ≤ b.length

instance : DecidablePred Q713WellFormed := fun _ => inferInstanceAs (Decidable (_ ∧ _))

/-- The decoder follows Q.713 pointers: it accepts exactly the well-formed frames whose three
designated regions the sub-decoders accept, and stores octet 1 as the protocol class and the
sub-decoders' results on those regions. -/
def DecodesQ713 (P : Params A D) : Prop :=
  ∀ b : List UInt8, b.getD 0 0 = msgTypeUDT →
    ((∃ u', (UDT.empty : UDT A D).unmarshalBinary P b = .ok u') ↔
      Q713WellFormed b ∧ (∃ a, P.parseCalledPartyAddress (q713Region b 2) = .ok a) ∧
        (∃ a, P.parseCallingPartyAddress (q713Region b 3) = .ok a) ∧
        (∃ d, P.dataRead (q713Region b 4) = .ok d)) ∧
    ∀ u', (UDT.empty : UDT A D).unmarshalBinary P b = .ok u' →
      u'.protocolClass = some ⟨b.getD 1 0⟩ ∧
        ∃ cdpa cgpa data, P.parseCalledPartyAddress (q713Region b 2) = .ok cdpa ∧
          P.parseCallingPartyAddress (q713Region b 3) = .ok cgpa ∧
          P.dataRead (q713Region b 4) = .ok data ∧ u'.calledPartyAddress = some cdpa ∧
          u'.callingPartyAddress = some cgpa ∧ u'.data = some data

/-- A Q.713 frame of class 1 with return on error: octet 1 is `0x81`, and the pointers at
octets 2, 3, 4 designate `[1, 0xAA]`, `[1, 0xBB]` and `[1, 0xCC]`. -/
def q713Frame : List UInt8 := [9, 0x81, 3, 4, 5, 1, 0xAA, 1, 0xBB, 1, 0xCC]

theorem q713Frame_wellFormed : Q713WellFormed q713Frame := by decide

/-- Whatever the sub-codecs, the decoder rejects that frame: it takes `0x81` for a pointer. -/
theorem unmarshalBinary_q713Frame (P : Params A D) (u : UDT A D) :
    u.unmarshalBinary P q713Frame = .error .unexpectedEOF := by
  rw [unmarshalBinary_eq, if_neg (by decide)]

end UDT

open UDT in
/-- With length-prefixed sub-codecs, the decoder is not the Q.713 pointer decoder. -/
theorem udt_decoder_rejects_q713_frame : ¬ DecodesQ713 Params.lengthPrefixed := by
  intro h
  obtain ⟨u', hu⟩ := ((h q713Frame rfl).1).2
    ⟨q713Frame_wellFormed, ⟨[0xAA], rfl⟩, ⟨[0xBB], rfl⟩, ⟨[0xCC], rfl⟩⟩
  rw [unmarshalBinary_q713Frame] at hu
  cases hu

open UDT in
/-- What the decoder does instead. It succeeds exactly when the chain of three length-prefixed
regions that starts at `1 + b[1]`, each after the one before, fits in `b` and the sub-decoders
accept the three regions; it stores their results, reads no protocol class, and keeps octets 1 to
3 only as the pointer fields. `ParseMessage` on a UDT frame returns that same decode. -/
theorem udt_unmarshal_contiguous_regions (P : Params A D) (b : List UInt8) :
    ((∃ u', (UDT.empty : UDT A D).unmarshalBinary P b = .ok u') ↔
      RegionsFit b ∧ (∃ a, P.parseCalledPartyAddress (calledRegion b) = .ok a) ∧
        (∃ a, P.parseCallingPartyAddress (callingRegion b) = .ok a) ∧
        (∃ d, P.dataRead (dataRegion b) = .ok d)) ∧
    (∀ u', (UDT.empty : UDT A D).unmarshalBinary P b = .ok u' →
      u'.protocolClass = none ∧ u'.type = b.getD 0 0 ∧ u'.ptr1 = b.getD 1 0 ∧
        u'.ptr2 = b.getD 2 0 ∧ u'.ptr3 = b.getD 3 0 ∧
        ∃ cdpa cgpa data, P.parseCalledPartyAddress (calledRegion b) = .ok cdpa ∧
          P.parseCallingPartyAddress (callingRegion b) = .ok cgpa ∧
          P.dataRead (dataRegion b) = .ok data ∧ u'.calledPartyAddress = some cdpa ∧
          u'.callingPartyAddress = some cgpa ∧ u'.data = some data) ∧
    ∀ (x : List UInt8 → Except CodecError X) (rest : List UInt8) (m : Message A D X),
      b = msgTypeUDT :: rest →
        (parseMessage P x b = .ok m ↔
          ∃ u', (UDT.empty : UDT A D).unmarshalBinary P b = .ok u' ∧ m = .udt u') := by
  refine ⟨⟨fun ⟨u', h⟩ => ?_, fun ⟨hfit, ⟨a, ha⟩, ⟨c, hc⟩, ⟨d, hd⟩⟩ => ?_⟩,
    fun u' h => ?_, fun x rest m hb => ?_⟩
  · rw [unmarshalBinary_eq] at h
    split_ifs at h with hfit
    obtain ⟨a, c, d, ha, hc, hd, -⟩ := decodeRegions_ok h
    exact ⟨hfit, ⟨a, ha⟩, ⟨c, hc⟩, ⟨d, hd⟩⟩
  · rw [unmarshalBinary_eq, if_pos hfit]
    exact ⟨_, by simp only [decodeRegions, ha, hc, hd, except_ok_bind]; rfl⟩
  · rw [unmarshalBinary_eq] at h
    split_ifs at h
    obtain ⟨a, c, d, ha, hc, hd, rfl⟩ := decodeRegions_ok h
    exact ⟨rfl, rfl, rfl, rfl, rfl, a, c, d, ha, hc, hd, rfl, rfl, rfl⟩
  · subst hb
    rw [parseMessage_udt]
    split <;> rename_i h <;> simp [h, eq_comm]

end Sccp
