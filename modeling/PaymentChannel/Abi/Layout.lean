import PaymentChannel.Abi.Value

/-!
# Layouts

Before anything is written, every value is measured. A *static* value is written where it stands; a
*dynamic* one leaves its offset there, and is itself written behind its container: the container has
a *head* and a *tail*. `layout` measures the head and tells which of the two a value is, `tailSize`
measures the tail. Both fail with the error of the first value, in the order of writing, that cannot
be encoded.
-/

namespace PaymentChannel.Abi

/-- What has to be known of a value to place it. -/
structure Layout where
  /-- The number of bytes in the head. -/
  headSize : Nat
  /-- Whether the value has a tail. -/
  isDynamic : Bool
  /-- Whether the value makes its container dynamic without being placed behind it. -/
  isMarker : Bool
  deriving DecidableEq, Repr

namespace Layout

/-- Elementary values fill one slot. -/
def slot : Layout := ⟨Slot.size, false, false⟩

/-- Whether a container holds an offset in place of the value. -/
def isIndirect (l : Layout) : Bool := l.isDynamic && !l.isMarker

/-- The number of bytes of the container's head that the value takes up. -/
def share (l : Layout) : Nat := if l.isIndirect then Slot.size else l.headSize

/-- The layout of a tuple of no parts. -/
def empty : Layout := ⟨0, false, false⟩

/-- The layout of a tuple with one more part in front. -/
def cons (part rest : Layout) : Layout :=
  ⟨part.share + rest.headSize, part.isDynamic || part.isMarker || rest.isDynamic, false⟩

/-- The layout of a sequence, from the layout of the tuple of its elements. -/
def sequence (elements : Layout) : Layout := ⟨Slot.size + elements.headSize, true, false⟩

end Layout

mutual

/-- The layout of a value. -/
def layout : Value → Except Error Layout
  | .bool _ | .uint _ _ | .int _ _ => pure .slot
  | .text _ => pure ⟨0, true, false⟩
  | .raw bs => pure ⟨Bytes.paddedLength bs.length, false, false⟩
  | .marker => pure ⟨0, false, true⟩
  | .tuple parts => layouts parts
  | .seq (some _) elements => do pure (.sequence (← layouts elements))
  | .seq none _ => throw .missingLength
  | .foreign kind _ => throw (.notRepresentable kind.name)
  | .pending kind => throw (.notYetSupported kind.name)
  | .failure message => throw (.custom message)

/-- The layout of the tuple of the given parts. -/
def layouts : List Value → Except Error Layout
  | [] => pure .empty
  | v :: vs => do
    let part ← layout v
    let rest ← layouts vs
    pure (.cons part rest)

end

mutual

/-- The number of bytes in the tail of a value. -/
def tailSize : Value → Except Error Nat
  | .bool _ | .uint _ _ | .int _ _ | .raw _ | .marker => pure 0
  | .text s => pure (Slot.size + Bytes.paddedLength (Bytes.ofText s).length)
  | .tuple parts => tailSizes parts
  | .seq (some _) elements => tailSizes elements
  | .seq none _ => throw .missingLength
  | .foreign kind _ => throw (.notRepresentable kind.name)
  | .pending kind => throw (.notYetSupported kind.name)
  | .failure message => throw (.custom message)

/-- The number of bytes behind the head of a tuple of the given parts: an indirect part is there as
    a whole, a direct one only with its tail. -/
def tailSizes : List Value → Except Error Nat
  | [] => pure 0
  | v :: vs => do
    let part ← layout v
    let tail ← tailSize v
    let rest ← tailSizes vs
    pure ((if part.isIndirect then part.headSize else 0) + tail + rest)

end

end PaymentChannel.Abi
