import Sccp.Bytes

/-!
# SCCP management messages

`SCMG` (chapter 5.3/Q.713) is a fixed layout: type, affected SSN, affected point code in little
endian, subsystem multiplicity indicator, and for SSC only a sixth octet with the congestion
level. Unknown type octets are kept as they are; only SSC changes the layout.

The main results say that `MarshalBinary`, `ParseSCMG` and `MarshalLen` agree on this layout in
both directions: every value encodes to `MarshalLen` octets that decode back to it (with the
congestion level cleared for types other than SSC), and every frame the decoder accepts is
re-encoded as the octets it was read from.
-/
namespace Sccp

/-- `SCMGType`, a `uint8`: values outside Table 23/Q.713 are kept. -/
abbrev SCMGType := UInt8

def scmgTypeSSA : SCMGType := 1
def scmgTypeSSP : SCMGType := 2
def scmgTypeSST : SCMGType := 3
def scmgTypeSOR : SCMGType := 4
def scmgTypeSOG : SCMGType := 5
def scmgTypeSSC : SCMGType := 6

structure SCMG where
  type : SCMGType
  affectedSSN : UInt8
  affectedPC : UInt16
  subsystemMultiplicityIndicator : UInt8
  sccpCongestionLevel : UInt8
  deriving DecidableEq, Repr

namespace SCMG

/-- `&SCMG{}`: every field zero. -/
def empty : SCMG := ⟨0, 0, 0, 0, 0⟩

def newSCMG (typ : SCMGType) (assn : UInt8) (apc : UInt16) (smi scl : UInt8) : SCMG :=
  ⟨typ, assn, apc, smi, scl⟩

/-- `MarshalLen`: five octets (Table 24/Q.713), one more for SSC (Table 25/Q.713). -/
def marshalLen (s : SCMG) : Nat :=
  5 + if s.type = scmgTypeSSC then 1 else 0

/-- `MarshalTo`. After the length check every index written is below `b.length`. -/
def marshalTo (s : SCMG) (b : List UInt8) : Except CodecError (List UInt8) :=
  if b.length < s.marshalLen then .error .unexpectedEOF
  else
    let b := (b.set 0 s.type).set 1 s.affectedSSN
    let b := writeAt b 2 (putUint16LE s.affectedPC)
    let b := b.set 4 s.subsystemMultiplicityIndicator
    .ok (if s.type = scmgTypeSSC then b.set 5 s.sccpCongestionLevel else b)

/-- `MarshalBinary`: `MarshalTo` into `make([]byte, s.MarshalLen())`. -/
def marshalBinary (s : SCMG) : Except CodecError (List UInt8) :=
  s.marshalTo (List.replicate s.marshalLen 0)

/-- `UnmarshalBinary`, on the receiver `s`. After each length check every index read is below
`b.length`. -/
def unmarshalBinary (s : SCMG) (b : List UInt8) : Except CodecError SCMG :=
  if b.length < 5 then .error .unexpectedEOF
  else
    let s := { s with
      type := b.getD 0 0
      affectedSSN := b.getD 1 0
      affectedPC := uint16LE (b.getD 2 0) (b.getD 3 0)
      subsystemMultiplicityIndicator := b.getD 4 0 }
    if s.type = scmgTypeSSC then
      if b.length < 6 then .error .unexpectedEOF
      else .ok { s with sccpCongestionLevel := b.getD 5 0 }
    else .ok s

end SCMG

/-- `ParseSCMG`: `UnmarshalBinary` on a fresh `&SCMG{}`. -/
def parseSCMG (b : List UInt8) : Except CodecError SCMG :=
  SCMG.empty.unmarshalBinary b

namespace SCMG

/-- The octets of `s` on the wire, as Q.713 lays them out. -/
def wire (s : SCMG) : List UInt8 :=
  [s.type, s.affectedSSN] ++ putUint16LE s.affectedPC ++ [s.subsystemMultiplicityIndicator] ++
    if s.type = scmgTypeSSC then [s.sccpCongestionLevel] else []

/-- What survives a round trip: the congestion level only for SSC. -/
def normalize (s : SCMG) : SCMG :=
  { s with sccpCongestionLevel := if s.type = scmgTypeSSC then s.sccpCongestionLevel else 0 }

@[simp] theorem length_wire (s : SCMG) : s.wire.length = s.marshalLen := by
  unfold wire marshalLen; split <;> rfl

theorem marshalLen_eq (s : SCMG) : s.marshalLen = if s.type = scmgTypeSSC then 6 else 5 := by
  unfold marshalLen; split <;> rfl

/-- `MarshalBinary` always succeeds, with the Q.713 layout. -/
theorem marshalBinary_eq_wire (s : SCMG) : s.marshalBinary = .ok s.wire := by
  unfold marshalBinary marshalTo wire marshalLen
  by_cases h : s.type = scmgTypeSSC <;> simp [h, writeAt, putUint16LE]

/-- Decoding the wire octets of `s` gives `s` back, up to the dropped congestion level. -/
theorem parseSCMG_wire (s : SCMG) : parseSCMG s.wire = .ok s.normalize := by
  unfold parseSCMG unmarshalBinary wire normalize
  by_cases h : s.type = scmgTypeSSC <;> simp [h, putUint16LE, empty]

/-- The value `ParseSCMG` reads from a frame it accepts. -/
def decoded (b : List UInt8) : SCMG :=
  ⟨b.getD 0 0, b.getD 1 0, uint16LE (b.getD 2 0) (b.getD 3 0), b.getD 4 0,
    if b.getD 0 0 = scmgTypeSSC then b.getD 5 0 else 0⟩

/-- The decoder accepts exactly the frames with five octets, six for SSC. -/
theorem parseSCMG_eq (b : List UInt8) :
    parseSCMG b = if 5 ≤ b.length ∧ (b.getD 0 0 = scmgTypeSSC → 6 ≤ b.length)
      then .ok (decoded b) else .error .unexpectedEOF := by
  unfold parseSCMG unmarshalBinary decoded
  dsimp only
  split_ifs <;> first | rfl | omega | (simp_all <;> omega)

theorem parseSCMG_ok_iff (b : List UInt8) :
    (∃ s, parseSCMG b = .ok s) ↔
      5 ≤ b.length ∧ (b.getD 0 0 = scmgTypeSSC → 6 ≤ b.length) := by
  rw [parseSCMG_eq]
  split <;> simp_all

theorem parseSCMG_eq_ok {b : List UInt8} {s : SCMG} (h : parseSCMG b = .ok s) :
    (5 ≤ b.length ∧ (b.getD 0 0 = scmgTypeSSC → 6 ≤ b.length)) ∧ s = decoded b := by
  rw [parseSCMG_eq] at h
  split_ifs at h with hb
  exact ⟨hb, (Except.ok.inj h).symm⟩

/-- Every accepted frame is the wire form of the decoded value, followed by what the decoder
did not read. -/
theorem wire_of_parseSCMG {b : List UInt8} {s : SCMG} (h : parseSCMG b = .ok s) :
    b.take s.marshalLen = s.wire := by
  obtain ⟨hb, rfl⟩ := parseSCMG_eq_ok h
  match b, hb with
  | x0 :: x1 :: x2 :: x3 :: x4 :: rest, ⟨_, h6⟩ =>
    by_cases hs : x0 = scmgTypeSSC
    · match rest, h6 hs with
      | x5 :: rest', _ => simp [decoded, wire, marshalLen, hs]
    · simp [decoded, wire, marshalLen, hs]

end SCMG

open SCMG in
/-- Encoder, decoder and `MarshalLen` agree on the SCMG layout in both directions. -/
theorem scmg_marshal_parse_agree :
    (∀ s : SCMG, ∃ bytes, s.marshalBinary = .ok bytes ∧ bytes.length = s.marshalLen ∧
        s.marshalLen = (if s.type = scmgTypeSSC then 6 else 5) ∧
        parseSCMG bytes = .ok { s with
          sccpCongestionLevel := if s.type = scmgTypeSSC then s.sccpCongestionLevel else 0 }) ∧
    (∀ b : List UInt8, (∃ s, parseSCMG b = .ok s) ↔
        5 ≤ b.length ∧ (b.getD 0 0 = scmgTypeSSC → 6 ≤ b.length)) ∧
    (∀ (b : List UInt8) (s : SCMG), parseSCMG b = .ok s →
        s.marshalBinary = .ok (b.take s.marshalLen) ∧
        s.affectedPC.toNat = (b.getD 2 0).toNat + 256 * (b.getD 3 0).toNat) := by
  refine ⟨fun s => ⟨s.wire, marshalBinary_eq_wire s, length_wire s, marshalLen_eq s,
    parseSCMG_wire s⟩, parseSCMG_ok_iff, fun b s h => ⟨?_, ?_⟩⟩
  · rw [marshalBinary_eq_wire, wire_of_parseSCMG h]
  · obtain ⟨-, rfl⟩ := parseSCMG_eq_ok h
    exact uint16LE_toNat _ _

end Sccp
