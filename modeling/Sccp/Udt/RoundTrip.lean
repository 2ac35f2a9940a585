import Sccp.Udt.Decode
import Sccp.Udt.Encode

/-!
# The UDT round trip

`MarshalTo` writes the protocol class at octet 1 and the pointers at octets 2 to 4, while
`UnmarshalBinary` reads its first pointer at octet 1 and never sets `ProtocolClass`. So no
encoding of a `NewUDT`, through any sub-codecs, decodes back to a UDT with its protocol class;
on the spec's own scenario S3 the decoder does not even accept the frame. `ValidateProtocolClass`
rejects every UDT `ParseMessage` returns.
-/
namespace Sccp

variable {A D X : Type}

open UDT

/-- Whatever `ParseMessage` decodes as a UDT has a nil protocol class. -/
theorem parseMessage_udt_protocolClass {P : Params A D} {x : List UInt8 → Except CodecError X}
    {b : List UInt8} {u : UDT A D} (h : parseMessage P x b = .ok (.udt u)) :
    u.protocolClass = none := by
  match b, h with
  | t :: rest, h =>
    simp only [parseMessage] at h
    split_ifs at h with ht ht'
    · split at h
      · cases h
      · rename_i m hm
        cases hu : m.unmarshalBinary P (t :: rest) with
        | error e => simp [hu, Except.map] at h
        | ok u' =>
          simp only [hu, Except.map, Except.ok.injEq, Message.udt.injEq] at h
          subst h
          rw [unmarshalBinary_protocolClass hu, unmarshalBinary_protocolClass hm]
          rfl
    · cases hx : x (t :: rest) <;> simp [hx, Except.map] at h

/-- A UDT that `ParseMessage` returns has no protocol class: `ValidateProtocolClass` fails with
`"protocol class is nil"`, `IsValidForProcessing` is false and `GetProtocolClassInfo` is
`(0, false)`. -/
theorem parseMessage_udt_invalid {P : Params A D} {x : List UInt8 → Except CodecError X}
    {b : List UInt8} {u : UDT A D} (h : parseMessage P x b = .ok (.udt u)) :
    u.validateProtocolClass = .error .nilProtocolClass ∧ u.isValidForProcessing = false ∧
      u.getProtocolClassInfo = (0, false) := by
  simp [isValidForProcessing, validateProtocolClass, getProtocolClassInfo, Except.toBool,
    parseMessage_udt_protocolClass h]

/-- A UDT frame with three empty length-prefixed parameters, the first pointer read at octet 1:
`ParseMessage` accepts it and returns a UDT that fails validation. -/
theorem parseMessage_udt_invalid_empty_params :
    ∃ u, parseMessage Params.lengthPrefixed (fun _ => (.ok () : Except CodecError Unit))
        [9, 3, 0, 0, 0, 0, 0] = .ok (.udt u) ∧
      u.validateProtocolClass = .error .nilProtocolClass ∧ u.isValidForProcessing = false ∧
      u.getProtocolClassInfo = (0, false) := by
  obtain ⟨u, hu⟩ : ∃ u, parseMessage Params.lengthPrefixed
      (fun _ => (.ok () : Except CodecError Unit)) [9, 3, 0, 0, 0, 0, 0] = .ok (.udt u) := ⟨_, rfl⟩
  exact ⟨u, hu, parseMessage_udt_invalid hu⟩

/-- No UDT built by `NewUDT` survives `MarshalBinary` then `ParseMessage` with its protocol
class, for any class, addresses, data and sub-codecs. -/
theorem udt_roundtrip_drops_protocol_class (P : Params A D)
    (x : List UInt8 → Except CodecError X) (pcls : Int) (retOnErr : Bool) (cdpa cgpa : A)
    (data : List UInt8) :
    ¬ ∃ bytes u', (newUDT P pcls retOnErr cdpa cgpa data).marshalBinary P = .ok bytes ∧
      parseMessage P x bytes = .ok (.udt u') ∧
      u'.protocolClass = (newUDT P pcls retOnErr cdpa cgpa data).protocolClass := by
  rintro ⟨bytes, u', -, hp, hpc⟩
  rw [parseMessage_udt_protocolClass hp, newUDT_protocolClass] at hpc
  cases hpc

/-- An 11-octet address, as in scenario S3. -/
def s3Address (first : UInt8) : List UInt8 := [first, 1, 2, 3, 4, 5, 6, 7, 8, 9, 10]

/-- Scenario S3: class 1 with return on error, two 11-octet addresses and data `AA BB CC`.
`MarshalBinary` succeeds, and `ParseMessage` rejects its output: it reads `0x81` as a pointer. -/
theorem udt_roundtrip_s3 :
    (newUDT Params.lengthPrefixed 1 true (s3Address 0x11) (s3Address 0x22) [0xAA, 0xBB, 0xCC]).marshalBinary
        Params.lengthPrefixed =
      .ok ([9, 0x81, 3, 14, 25] ++ (11 :: s3Address 0x11) ++ (11 :: s3Address 0x22) ++
        [3, 0xAA, 0xBB, 0xCC, 0, 0]) ∧
    parseMessage (X := Unit) Params.lengthPrefixed (fun _ => .error .unexpectedEOF)
        ([9, 0x81, 3, 14, 25] ++ (11 :: s3Address 0x11) ++ (11 :: s3Address 0x22) ++
          [3, 0xAA, 0xBB, 0xCC, 0, 0]) =
      .error (.parseUDT .unexpectedEOF) :=
  ⟨rfl, rfl⟩

end Sccp
