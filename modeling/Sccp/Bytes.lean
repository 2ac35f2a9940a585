import Mathlib.Data.Nat.Bitwise
import Mathlib.Data.List.Basic
import Mathlib.Data.String.Basic

/-!
# Go byte slices

The codecs read and write `[]byte` values through indexing `b[i]`, slicing `b[lo:hi]` and
`encoding/binary.LittleEndian`. A slice is a `List UInt8` whose capacity is its length: every
buffer the codecs slice is made by `make([]byte, n)` or is the frame being decoded. An index or a
slice bound out of range is the Go runtime panic, kept apart from the errors the code returns as
the constructor `indexOutOfRange`.
-/
namespace Sccp

/-- How a codec call ends when it does not return normally: an `error` value or a panic. -/
inductive CodecError where
  /-- `io.ErrUnexpectedEOF`. -/
  | unexpectedEOF
  /-- A run-time panic: an index or a slice bound out of range. -/
  | indexOutOfRange
  /-- A run-time panic: a method called through a nil parameter pointer. -/
  | nilDereference
  /-- `UnsupportedTypeError(b[0])`. -/
  | unsupportedType (t : UInt8)
  /-- `"invalid SCCP message %v: %w"` around `io.ErrUnexpectedEOF`. -/
  | invalidMessage (b : List UInt8)
  /-- `"failed to parse UDT message: %w"`. -/
  | parseUDT (inner : CodecError)
  /-- An error returned by a `params` sub-codec, which the UDT codec passes on unchanged. -/
  | param (code : Nat)
  deriving DecidableEq, Repr

/-- A panic rather than a returned error. -/
def CodecError.isPanic : CodecError → Bool
  | .indexOutOfRange | .nilDereference => true
  | _ => false

/-- `if cond { return e }`. -/
def failIf (cond : Prop) [Decidable cond] (e : CodecError) : Except CodecError Unit :=
  if cond then .error e else .ok ()

/-- `b[i]`. -/
def getByte (b : List UInt8) (i : Nat) : Except CodecError UInt8 :=
  match b[i]? with
  | some x => .ok x
  | none => .error .indexOutOfRange

/-- `b[lo:hi]`, with the capacity of `b` equal to its length. -/
def sliceRange (b : List UInt8) (lo hi : Nat) : Except CodecError (List UInt8) :=
  if lo ≤ hi ∧ hi ≤ b.length then .ok ((b.take hi).drop lo) else .error .indexOutOfRange

/-- `b[i] = v`. -/
def putByte (b : List UInt8) (i : Nat) (v : UInt8) : Except CodecError (List UInt8) :=
  if i < b.length then .ok (b.set i v) else .error .indexOutOfRange

/-- The buffer after a callee has written `bytes` into the window of `b` that starts at `lo`. -/
def writeAt (b : List UInt8) (lo : Nat) (bytes : List UInt8) : List UInt8 :=
  b.take lo ++ bytes ++ b.drop (lo + bytes.length)

/-- `binary.LittleEndian.Uint16`: `uint16(b[0]) | uint16(b[1])<<8`. -/
def uint16LE (lo hi : UInt8) : UInt16 := lo.toUInt16 ||| (hi.toUInt16 <<< 8)

/-- The two octets `binary.LittleEndian.PutUint16` stores: `byte(v)`, `byte(v >> 8)`. -/
def putUint16LE (v : UInt16) : List UInt8 := [v.toUInt8, (v >>> 8).toUInt8]

@[simp] theorem except_ok_bind {ε α β : Type} (a : α) (f : α → Except ε β) :
    (Except.ok a >>= f) = f a := rfl

@[simp] theorem except_error_bind {ε α β : Type} (e : ε) (f : α → Except ε β) :
    (Except.error e >>= f) = Except.error e := rfl

theorem except_bind_eq_ok {ε α β : Type} {x : Except ε α} {f : α → Except ε β} {b : β} :
    (x >>= f) = .ok b ↔ ∃ a, x = .ok a ∧ f a = .ok b := by
  cases x <;> simp [except_ok_bind, except_error_bind]

theorem except_bind_eq_error {ε α β : Type} {x : Except ε α} {f : α → Except ε β} {e : ε} :
    (x >>= f) = .error e ↔ x = .error e ∨ ∃ a, x = .ok a ∧ f a = .error e := by
  cases x <;> simp [except_ok_bind, except_error_bind]

@[simp] theorem failIf_bind {β : Type} (cond : Prop) [Decidable cond] (e : CodecError)
    (f : Unit → Except CodecError β) :
    (failIf cond e >>= f) = if cond then .error e else f () := by
  unfold failIf; split <;> rfl

@[simp] theorem getByte_eq_ok {b : List UInt8} {i : Nat} {x : UInt8} :
    getByte b i = .ok x ↔ b[i]? = some x := by
  cases h : b[i]? <;> simp [getByte, h]

theorem getByte_eq (b : List UInt8) (i : Nat) :
    getByte b i = if i < b.length then .ok (b.getD i 0) else .error .indexOutOfRange := by
  unfold getByte
  split_ifs with h
  · simp [List.getElem?_eq_getElem h, List.getD_eq_getElem?_getD]
  · simp [List.getElem?_eq_none (Nat.le_of_not_lt h)]

theorem getByte_of_lt {b : List UInt8} {i : Nat} (h : i < b.length) :
    getByte b i = .ok (b.getD i 0) := by
  simp [getByte, List.getD_eq_getElem?_getD, h]

theorem sliceRange_of_le {b : List UInt8} {lo hi : Nat} (h₁ : lo ≤ hi) (h₂ : hi ≤ b.length) :
    sliceRange b lo hi = .ok ((b.take hi).drop lo) := by
  simp [sliceRange, h₁, h₂]

@[simp] theorem length_writeAt (b : List UInt8) (lo : Nat) (bytes : List UInt8)
    (h : lo + bytes.length ≤ b.length) : (writeAt b lo bytes).length = b.length := by
  simp [writeAt]; omega

/-- What a window write leaves at index `i`. -/
theorem getD_writeAt (b : List UInt8) (lo : Nat) (bytes : List UInt8) (i : Nat)
    (h : lo + bytes.length ≤ b.length) :
    (writeAt b lo bytes).getD i 0 =
      if i < lo then b.getD i 0
      else if i < lo + bytes.length then bytes.getD (i - lo) 0 else b.getD i 0 := by
  have hmin : min lo b.length = lo := by omega
  simp only [writeAt, List.getD_eq_getElem?_getD, List.getElem?_append, List.length_append,
    List.length_take, hmin, List.getElem?_take, List.getElem?_drop]
  split_ifs <;> first | rfl | omega | (congr 2; omega)

/-- A window write into a buffer whose first `lo` octets are `pre`. -/
theorem writeAt_append (pre rest bytes : List UInt8) {lo : Nat} (h : pre.length = lo) :
    writeAt (pre ++ rest) lo bytes = pre ++ bytes ++ rest.drop bytes.length := by
  subst h
  simp [writeAt, List.drop_append_eq_append_drop, List.take_append_eq_append_take]

theorem putByte_of_lt {b : List UInt8} {i : Nat} (v : UInt8) (h : i < b.length) :
    putByte b i v = .ok (b.set i v) := if_pos h

/-- `uint8(n)` for a non-negative `int`. -/
theorem uint8_toNat_ofNat (n : Nat) : (UInt8.ofNat n).toNat = n % 256 := BitVec.toNat_ofNat ..

theorem uint16_toNat_or (a b : UInt16) : (a ||| b).toNat = a.toNat ||| b.toNat :=
  BitVec.toNat_or ..

theorem uint16_toNat_shiftLeft_eight (a : UInt16) : (a <<< 8).toNat = a.toNat * 256 % 65536 := by
  show (a.toBitVec <<< (UInt16.mod 8 16).toBitVec).toNat = _
  simp [BitVec.toNat_shiftLeft, Nat.shiftLeft_eq]
  rfl

theorem uint16_toNat_shiftRight_eight (a : UInt16) : (a >>> 8).toNat = a.toNat / 256 := by
  show (a.toBitVec >>> (UInt16.mod 8 16).toBitVec).toNat = _
  simp [BitVec.toNat_ushiftRight, Nat.shiftRight_eq_div_pow]
  rfl

/-- The decoded point code is the low octet plus 256 times the high octet. -/
theorem uint16LE_toNat (lo hi : UInt8) : (uint16LE lo hi).toNat = lo.toNat + 256 * hi.toNat := by
  have hlo := lo.toNat_lt
  have hhi := hi.toNat_lt
  simp only [uint16LE, uint16_toNat_or, uint16_toNat_shiftLeft_eight, UInt8.toUInt16_toNat]
  rw [Nat.mod_eq_of_lt (by omega), Nat.lor_comm, Nat.mul_comm,
    ← Nat.mul_add_lt_is_or (i := 8) hlo]
  omega

/-- Reading back the two octets `PutUint16` stored gives the value. -/
@[simp] theorem uint16LE_putUint16LE (v : UInt16) :
    uint16LE v.toUInt8 (v >>> 8).toUInt8 = v := by
  apply UInt16.ext
  rw [uint16LE_toNat, UInt16.toUInt8_toNat, UInt16.toUInt8_toNat, uint16_toNat_shiftRight_eight]
  have := v.toNat_lt
  omega

/-- Storing a decoded value gives back the two octets it was read from. -/
@[simp] theorem putUint16LE_uint16LE (lo hi : UInt8) : putUint16LE (uint16LE lo hi) = [lo, hi] := by
  have hlo := lo.toNat_lt
  have hhi := hi.toNat_lt
  simp only [putUint16LE, List.cons.injEq, and_true]
  constructor <;> apply UInt8.ext <;>
    simp only [UInt16.toUInt8_toNat, uint16_toNat_shiftRight_eight, uint16LE_toNat] <;> omega

@[simp] theorem length_putUint16LE (v : UInt16) : (putUint16LE v).length = 2 := rfl

end Sccp
