import Sccp.Bytes

/-!
# Parameter sub-codecs

The UDT codec hands its parameters to the `params` package: `ProtocolClass`, `PartyAddress`
(Called and Calling Party Address) and `Data`. That package is not among the repository's files.
`ProtocolClass` is modelled from the spec's wire format, and the two variable parameters are a
`Params` record passed to every UDT function: what a value's `Write` stores (its `MarshalLen`
octets) and what each parse function returns on the slice it is given.

`Params.lengthPrefixed` is one such record, modelled from the spec: each parameter is a length
octet followed by that many octets.
-/
namespace Sccp

/-- `params.ProtocolClass`, one octet on the wire: the class in the low nibble and return on
error in bit 7. -/
structure ProtocolClass where
  octet : UInt8
  deriving DecidableEq, Repr

namespace ProtocolClass

/-- Modelled from the spec: `NewProtocolClass(cls, retOnErr)` puts `cls` in the low nibble and
sets 0x80 for return on error. -/
def newProtocolClass (cls : Int) (retOnErr : Bool) : ProtocolClass :=
  ⟨UInt8.ofNat (cls % 16).toNat ||| if retOnErr then 0x80 else 0⟩

/-- Modelled from the spec: `GetProtocolClass`, the low nibble. -/
def getProtocolClass (p : ProtocolClass) : Nat := (p.octet &&& 0x0F).toNat

/-- Modelled from the spec: `HasReturnOption`, bit 7. -/
def hasReturnOption (p : ProtocolClass) : Bool := p.octet &&& 0x80 != 0

/-- Modelled from the spec: `Write(b[lo:])` stores the octet at `lo` and returns 1, or
`io.ErrUnexpectedEOF` on an empty window. -/
def write (p : ProtocolClass) (b : List UInt8) (lo : Nat) :
    Except CodecError (Nat × List UInt8) := do
  let w ← sliceRange b lo b.length
  failIf (w.length < 1) .unexpectedEOF
  return (1, writeAt b lo [p.octet])

theorem write_of_lt (p : ProtocolClass) {b : List UInt8} {lo : Nat} (h : lo < b.length) :
    p.write b lo = .ok (1, writeAt b lo [p.octet]) := by
  rw [write, sliceRange_of_le (Nat.le_of_lt h) le_rfl, except_ok_bind, failIf_bind,
    if_neg (by simp only [List.length_drop, List.length_take]; omega)]
  rfl

end ProtocolClass

/-- The `PartyAddress` and `Data` sub-codecs, on address values `A` and data values `D`. -/
structure Params (A D : Type) where
  /-- The octets `(*PartyAddress).Write` stores; `MarshalLen()` is their number. -/
  addressBytes : A → List UInt8
  /-- `ParseCalledPartyAddress` on a slice holding one parameter. -/
  parseCalledPartyAddress : List UInt8 → Except CodecError A
  /-- `ParseCallingPartyAddress` on a slice holding one parameter. -/
  parseCallingPartyAddress : List UInt8 → Except CodecError A
  /-- The octets `(*Data).Write` stores; `MarshalLen()` is their number. -/
  dataBytes : D → List UInt8
  /-- `(&Data{}).Read` on a slice holding one parameter. -/
  dataRead : List UInt8 → Except CodecError D
  /-- `NewData(data)`. -/
  newData : List UInt8 → D

/-- Modelled from the spec: `Write` on a window `b[lo:hi]` stores the parameter's octets at `lo`
when they fit, and fails with `io.ErrUnexpectedEOF` otherwise; the slice expression itself panics
when `lo:hi` is not a range of `b`. -/
def writeParam (bytes : List UInt8) (b : List UInt8) (lo hi : Nat) :
    Except CodecError (List UInt8) := do
  let w ← sliceRange b lo hi
  failIf (w.length < bytes.length) .unexpectedEOF
  return writeAt b lo bytes

theorem writeParam_of_le {bytes b : List UInt8} {lo hi : Nat} (h₁ : lo + bytes.length ≤ hi)
    (h₂ : hi ≤ b.length) : writeParam bytes b lo hi = .ok (writeAt b lo bytes) := by
  rw [writeParam, sliceRange_of_le (by omega) h₂, except_ok_bind, failIf_bind,
    if_neg (by simp only [List.length_drop, List.length_take]; omega)]
  rfl

/-- `Write` into a window succeeds exactly when the window is a range of `b` wide enough for the
parameter. -/
theorem writeParam_eq_ok {bytes b b' : List UInt8} {lo hi : Nat} :
    writeParam bytes b lo hi = .ok b' ↔
      lo + bytes.length ≤ hi ∧ hi ≤ b.length ∧ b' = writeAt b lo bytes := by
  unfold writeParam sliceRange
  by_cases hr : lo ≤ hi ∧ hi ≤ b.length
  · rw [if_pos hr, except_ok_bind, failIf_bind]
    simp only [List.length_drop, List.length_take, Nat.min_eq_left hr.2]
    split_ifs with hs
    · simp only [reduceCtorEq, false_iff, not_and]
      exact fun h _ => absurd h (by omega)
    · simp only [pure, Except.pure, Except.ok.injEq, eq_comm, hr.2, true_and]
      exact ⟨fun h => ⟨by omega, h⟩, And.right⟩
  · rw [if_neg hr, except_error_bind]
    simp only [reduceCtorEq, false_iff, not_and]
    exact fun h h' => absurd ⟨by omega, h'⟩ hr

/-- A window that is not a range of `b` panics in the slice expression. -/
theorem writeParam_of_not_range {bytes b : List UInt8} {lo hi : Nat}
    (h : ¬(lo ≤ hi ∧ hi ≤ b.length)) : writeParam bytes b lo hi = .error .indexOutOfRange := by
  rw [writeParam, sliceRange, if_neg h]
  rfl

/-- One length-prefixed parameter: `L` followed by `L` octets, which are the value. -/
def parseLengthPrefixed (r : List UInt8) : Except CodecError (List UInt8) :=
  match r with
  | l :: body => if body.length = l.toNat then .ok body else .error .unexpectedEOF
  | [] => .error .unexpectedEOF

/-- Modelled from the spec (invariant P2): every parameter is a length octet followed by that
many octets, and a value is the octets after the length. -/
def Params.lengthPrefixed : Params (List UInt8) (List UInt8) where
  addressBytes a := UInt8.ofNat a.length :: a
  parseCalledPartyAddress := parseLengthPrefixed
  parseCallingPartyAddress := parseLengthPrefixed
  dataBytes d := UInt8.ofNat d.length :: d
  dataRead := parseLengthPrefixed
  newData d := d

end Sccp
