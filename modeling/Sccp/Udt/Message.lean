import Sccp.Params

/-!
# UDT messages and the message dispatcher

The Unitdata message as `udt.go` builds, encodes and decodes it, and `ParseMessage` from
`sccp.go`. `NewUDT` computes the three pointers in `uint8` arithmetic, `MarshalTo` writes type,
protocol class, pointers and then the parameters into windows whose ends it takes from the
pointers, and `UnmarshalBinary` reads its first pointer from octet 1 and finds each later
parameter at the end of the one before. Every index and slice goes through `getByte`,
`putByte` and `sliceRange`, so a panic of the Go code is a `CodecError.isPanic` result here.

Both `UnmarshalBinary` and `MarshalTo` return the receiver or buffer they leave behind; when
they fail, their callers discard it.
-/
namespace Sccp

/-- `MsgType`, a `uint8`. -/
abbrev MsgType := UInt8

def msgTypeUDT : MsgType := 9
def msgTypeXUDT : MsgType := 17

variable {A D X : Type}

/-- `UDT`; a nil pointer field is `none`. -/
structure UDT (A D : Type) where
  type : MsgType
  protocolClass : Option ProtocolClass
  sls : UInt8
  calledPartyAddress : Option A
  callingPartyAddress : Option A
  data : Option D
  ptr1 : UInt8
  ptr2 : UInt8
  ptr3 : UInt8
  deriving DecidableEq

namespace UDT

/-- `&UDT{}`. -/
def empty : UDT A D := ⟨0, none, 0, none, none, none, 0, 0, 0⟩

/-- `NewUDT`: each pointer is the one before plus `uint8(MarshalLen())` minus one. -/
def newUDT (P : Params A D) (pcls : Int) (retOnErr : Bool) (cdpa cgpa : A) (data : List UInt8) :
    UDT A D :=
  let ptr1 : UInt8 := 3
  let ptr2 := ptr1 + UInt8.ofNat (P.addressBytes cdpa).length - 1
  { type := msgTypeUDT
    protocolClass := some (ProtocolClass.newProtocolClass pcls retOnErr)
    sls := 0
    calledPartyAddress := some cdpa
    callingPartyAddress := some cgpa
    data := some (P.newData data)
    ptr1 := ptr1
    ptr2 := ptr2
    ptr3 := ptr2 + UInt8.ofNat (P.addressBytes cgpa).length - 1 }

/-- `MarshalLen`: six fixed octets, twelve for each address present whatever its length, and
one more than the data's own length. -/
def marshalLen (P : Params A D) (u : UDT A D) : Nat :=
  6 + (if u.calledPartyAddress.isSome then 1 + 11 else 0) +
    (if u.callingPartyAddress.isSome then 1 + 11 else 0) +
    match u.data with
    | some d => 1 + (P.dataBytes d).length
    | none => 0

/-- The octets a present parameter's `Write` stores; a nil one panics in its method. -/
def paramBytes (bytes : α → List UInt8) : Option α → Except CodecError (List UInt8)
  | some a => .ok (bytes a)
  | none => .error .nilDereference

/-- `MarshalTo`. The window ends are `int(u.ptr2 + 3)` and `int(u.ptr3 + 4)`, sums in `uint8`. -/
def marshalTo (P : Params A D) (u : UDT A D) (b : List UInt8) : Except CodecError (List UInt8) := do
  failIf (b.length < 6) .unexpectedEOF
  let b ← putByte b 0 u.type
  let pc ← match u.protocolClass with
    | some pc => pure pc
    | none => throw .nilDereference
  let (m, b) ← pc.write b 1
  let n := 1 + m
  let b ← putByte b n u.ptr1
  let b ← putByte b (n + 1) u.ptr2
  let b ← putByte b (n + 2) u.ptr3
  let n := n + 3
  let cdpaEnd := (u.ptr2 + 3).toNat
  let cgpaEnd := (u.ptr3 + 4).toNat
  let b ← writeParam (← paramBytes P.addressBytes u.calledPartyAddress) b n cdpaEnd
  let b ← writeParam (← paramBytes P.addressBytes u.callingPartyAddress) b cdpaEnd cgpaEnd
  writeParam (← paramBytes P.dataBytes u.data) b cgpaEnd b.length

/-- `MarshalBinary`: `MarshalTo` into `make([]byte, u.MarshalLen())`. -/
def marshalBinary (P : Params A D) (u : UDT A D) : Except CodecError (List UInt8) :=
  u.marshalTo P (List.replicate (u.marshalLen P) 0)

/-- `UnmarshalBinary` on the receiver `u`. The pointer read at octet 2 is stored and not used
for the offsets: the Calling Party Address and the Data are looked for where the parameter
before them ends. -/
def unmarshalBinary (P : Params A D) (u : UDT A D) (b : List UInt8) :
    Except CodecError (UDT A D) := do
  let l := b.length
  failIf (l ≤ 4) .unexpectedEOF
  let offset := 1
  let u := { u with
    type := ← getByte b 0
    ptr1 := ← getByte b offset
    ptr2 := ← getByte b (offset + 1)
    ptr3 := ← getByte b (offset + 2) }
  let offsetPtr1 := offset + u.ptr1.toNat
  failIf (l < offsetPtr1 + 1) .unexpectedEOF
  let cdpaLen := (← getByte b offsetPtr1).toNat
  let cdpaEnd := offsetPtr1 + cdpaLen + 1
  let offsetPtr2 := cdpaEnd
  failIf (l < offsetPtr2 + 1) .unexpectedEOF
  let cgpaLen := (← getByte b offsetPtr2).toNat
  let cgpaEnd := offsetPtr2 + cgpaLen + 1
  let offsetPtr3 := cgpaEnd
  failIf (l < offsetPtr3 + 1) .unexpectedEOF
  let dataLen := (← getByte b offsetPtr3).toNat
  let dataEnd := offsetPtr3 + dataLen + 1
  failIf (l < cdpaEnd ∨ l < cgpaEnd ∨ l < dataEnd) .unexpectedEOF
  let cdpa ← P.parseCalledPartyAddress (← sliceRange b offsetPtr1 cdpaEnd)
  let cgpa ← P.parseCallingPartyAddress (← sliceRange b offsetPtr2 cgpaEnd)
  let data ← P.dataRead (← sliceRange b offsetPtr3 dataEnd)
  return { u with
    calledPartyAddress := some cdpa, callingPartyAddress := some cgpa, data := some data }

/-- The errors `ValidateProtocolClass` returns. -/
inductive ValidationError where
  /-- `"protocol class is nil"`. -/
  | nilProtocolClass
  /-- `"invalid protocol class %d for UDT message (only 0 and 1 are valid)"`. -/
  | invalidProtocolClass (cls : Nat)
  deriving DecidableEq, Repr

/-- `ValidateProtocolClass`: a UDT carries class 0 or 1. -/
def validateProtocolClass (u : UDT A D) : Except ValidationError Unit :=
  match u.protocolClass with
  | none => .error .nilProtocolClass
  | some pc =>
    let cls := pc.getProtocolClass
    if cls ≠ 0 ∧ cls ≠ 1 then .error (.invalidProtocolClass cls) else .ok ()

/-- `IsValidForProcessing`: `ValidateProtocolClass() == nil`. -/
def isValidForProcessing (u : UDT A D) : Bool := u.validateProtocolClass.toBool

/-- `GetProtocolClassInfo`: the class and the return option, `(0, false)` for a nil class. -/
def getProtocolClassInfo (u : UDT A D) : Nat × Bool :=
  match u.protocolClass with
  | none => (0, false)
  | some pc => (pc.getProtocolClass, pc.hasReturnOption)

end UDT

/-- What `ParseMessage` returns: the decoded message behind the `Message` interface. -/
inductive Message (A D X : Type) where
  | udt (u : UDT A D)
  | xudt (x : X)

/-- `fmt.Errorf` around an error; a panic is not an error value and unwinds past it. -/
def wrapError (f : CodecError → CodecError) (e : CodecError) : CodecError :=
  if e.isPanic then e else f e

/-- `ParseMessage`. The UDT case decodes twice into the same receiver; `xudtUnmarshal` is
`(&XUDT{}).UnmarshalBinary`, whose code is not among the repository's files. -/
def parseMessage (P : Params A D) (xudtUnmarshal : List UInt8 → Except CodecError X)
    (b : List UInt8) : Except CodecError (Message A D X) :=
  match b with
  | [] => .error (.invalidMessage b)
  | t :: _ =>
    if t = msgTypeUDT then
      match UDT.empty.unmarshalBinary P b with
      | .error e => .error (wrapError .parseUDT e)
      | .ok m => (m.unmarshalBinary P b).map .udt
    else if t = msgTypeXUDT then (xudtUnmarshal b).map .xudt
    else .error (.unsupportedType t)

end Sccp
