import PaymentChannel.Abi.Layout

/-!
# Writing values

A value is written in two passes over its tree: the head, in which an indirect part leaves the
offset of its own encoding, and the tail, with the indirect parts themselves. Slots go to a sink
one by one, and stay there if a pass fails; that none is ever left behind by a failure is due to
measuring first.

* `encode` writes a value on its own, a dynamic one behind the offset of its head;
* `encodeArguments` writes the parts of a tuple, or whatever value it is given, without that offset;
* `encoding` and `argumentEncoding` collect the slots.
-/

namespace PaymentChannel.Abi

/-! ## Slots of numbers

A number is put at the end of a slot, and the slot is filled up in front of it. -/

/-- An unsigned number has zeros in front. -/
def unsignedSlot (w : Width) (x : BitVec w.bits) : Slot :=
  .endingWith 0 (Bytes.ofNat w.bytes x.toNat)

/-- A signed number has its sign in front, in all bits. -/
def signedSlot (w : Width) (x : BitVec w.bits) : Slot :=
  .endingWith (if x.toInt < 0 then 0xff else 0) (Bytes.ofNat w.bytes x.toNat)

/-- A count, such as a length or an offset, is a number of 64 bits. One that is too large for that,
    and for any memory, takes up the whole slot. -/
def countSlot (n : Nat) : Slot :=
  .endingWith 0 (Bytes.ofNat (if n < UInt64.size then Width.w64.bytes else Slot.size) n)

/-! ## Sinks -/

/-- A computation that writes slots to a sink and may fail. -/
abbrev Emit := ExceptT Error (StateM (Array Slot))

/-- Writes one slot. -/
def emit (s : Slot) : Emit Unit := modify (·.push s)

/-- Writes slots in their order. -/
def emitAll : List Slot → Emit Unit
  | [] => pure ()
  | s :: ss => do
    emit s
    emitAll ss

@[simp] theorem run_emit (s : Slot) (written : Array Slot) :
    (emit s).run written = (.ok (), written.push s) := rfl

@[simp] theorem run_emitAll (ss : List Slot) (written : Array Slot) :
    (emitAll ss).run written = (.ok (), written ++ ss) := by
  induction ss generalizing written with
  | nil => simp [emitAll]; rfl
  | cons s ss ih =>
    rw [show (emitAll (s :: ss)).run written = (emitAll ss).run (written.push s) from rfl, ih]
    simp

/-! ## Passes -/

mutual

/-- Writes the head of a value. The offset is where its first tail will begin, counted from the
    beginning of its head. -/
def writeHead : (offset : Nat) → Value → Emit Unit
  | _, .bool b => emit (unsignedSlot .w8 (.ofNat _ b.toNat))
  | _, .uint w x => emit (unsignedSlot w x)
  | _, .int w x => emit (signedSlot w x)
  | _, .text _ => pure ()
  | _, .raw bs => emitAll bs.slots
  | _, .marker => pure ()
  | offset, .tuple parts => writeHeads false offset parts
  | offset, .seq (some announced) elements => do
    emit (countSlot announced)
    writeHeads true offset elements
  | _, .seq none _ => throw .missingLength
  | _, .foreign kind _ => throw (.notRepresentable kind.name)
  | _, .pending kind => throw (.notYetSupported kind.name)
  | _, .failure message => throw (.custom message)

/-- Writes the heads of parts one after the other. Offsets of elements of a sequence count from the
    first element, not from the length in front of it. -/
def writeHeads : (inSequence : Bool) → (offset : Nat) → List Value → Emit Unit
  | _, _, [] => pure ()
  | inSequence, offset, v :: vs => do
    let part ← layout v
    if part.isIndirect then
      emit (countSlot (if inSequence then offset - Slot.size else offset))
      -- The next tail will begin behind this one.
      writeHeads inSequence (offset + part.headSize + (← tailSize v)) vs
    else
      writeHead part.headSize v
      writeHeads inSequence offset vs

end

mutual

/-- Writes the tail of a value. -/
def writeTail : Value → Emit Unit
  | .bool _ | .uint _ _ | .int _ _ | .raw _ | .marker => pure ()
  | .text s => do
    emit (countSlot (Bytes.ofText s).length)
    emitAll (Bytes.ofText s).slots
  | .tuple parts => writeTails parts
  | .seq (some _) elements => writeTails elements
  | .seq none _ => throw .missingLength
  | .foreign kind _ => throw (.notRepresentable kind.name)
  | .pending kind => throw (.notYetSupported kind.name)
  | .failure message => throw (.custom message)

/-- Writes the indirect parts one after the other, each with its head and its tail. -/
def writeTails : List Value → Emit Unit
  | [] => pure ()
  | v :: vs => do
    let part ← layout v
    if part.isIndirect then
      writeHead part.headSize v
      writeTail v
    writeTails vs

end

/-- Measures a value, then writes its head and, if it is dynamic, its tail. -/
def write (withOffset : Bool) (v : Value) : Emit Unit := do
  let whole ← layout v
  if whole.isDynamic && withOffset then
    emit (countSlot Slot.size)
  writeHead whole.headSize v
  if whole.isDynamic then
    writeTail v

/-- Writes a value on its own: a dynamic one is preceded by its offset. -/
def encode : Value → Emit Unit := write true

/-- Writes the parts of a tuple as the arguments of a call, with no offset in front. -/
def encodeArguments : Value → Emit Unit := write false

/-- What a computation writes to an empty sink, if it does not fail. -/
def Emit.slots (e : Emit Unit) : Except Error (List Slot) :=
  match e.run #[] with
  | (.ok (), written) => .ok written.toList
  | (.error err, _) => .error err

/-- The slots of a value on its own. -/
def encoding (v : Value) : Except Error (List Slot) := Emit.slots (encode v)

/-- The slots of the parts of a tuple as arguments. -/
def argumentEncoding (v : Value) : Except Error (List Slot) := Emit.slots (encodeArguments v)

/-- The bytes of the arguments. -/
def argumentBytes (v : Value) : Except Error Bytes := Slot.flatten <$> argumentEncoding v

end PaymentChannel.Abi
