import PaymentChannel.Bytes

/-!
# Value trees

What can be handed to the contract encoding: a tree of elementary values, tuples and sequences.
Not everything that can be handed over can be encoded; `Abi.Error` says why not.

Two kinds of nodes exist for the sake of dynamic byte strings. `Value.raw` puts bytes, padded to
whole slots, in place; `Value.marker` occupies nothing and makes the tuple around it dynamic.
Together they make up `Value.bytes`: a tuple of a marker, a length and the bytes.
-/

namespace PaymentChannel.Abi

/-- The kinds of values that contracts know no type for. -/
inductive Foreign where
  | float32
  | float64
  | none
  | some
  | unit
  | unitRecord
  | unitVariant
  | wrapperVariant
  | tupleVariant
  | recordVariant
  | map
  deriving DecidableEq, Repr

namespace Foreign

/-- How an error names the kind. -/
def name : Foreign → String
  | float32 => "f32"
  | float64 => "f64"
  | none => "none"
  | some => "some"
  | unit => "unit"
  | unitRecord => "unit struct"
  | unitVariant => "unit variant (enum)"
  | wrapperVariant => "newtype variant (enum)"
  | tupleVariant => "tuple variant (enum)"
  | recordVariant => "struct variant"
  | map => "map"

end Foreign

/-- The kinds of values that contracts have a type for, but that have no encoding here. -/
inductive Pending where
  | character
  | formatted
  deriving DecidableEq, Repr

namespace Pending

/-- How an error names the kind. -/
def name : Pending → String
  | character => "char"
  | formatted => "collect_str"

end Pending

/-- Why a value cannot be encoded. -/
inductive Error where
  | notRepresentable (kind : String)
  | notYetSupported (kind : String)
  | missingLength
  | custom (message : String)
  deriving DecidableEq, Repr

namespace Error

/-- The error as text. -/
def message : Error → String
  | notRepresentable kind => s!"type is not representable in abi encoding: {kind}"
  | notYetSupported kind => s!"type is not yet implemented: {kind}"
  | missingLength => "sequence length must be known before encoding"
  | custom text => text

end Error

/-- The widths of machine integers. -/
inductive Width where
  | w8
  | w16
  | w32
  | w64
  | w128
  deriving DecidableEq, Repr

namespace Width

/-- The width in bits. -/
def bits : Width → Nat
  | w8 => 8
  | w16 => 16
  | w32 => 32
  | w64 => 64
  | w128 => 128

/-- The width in bytes. -/
def bytes : Width → Nat
  | w8 => 1
  | w16 => 2
  | w32 => 4
  | w64 => 8
  | w128 => 16

end Width

/-- A value handed to the encoding. -/
inductive Value where
  /-- A truth value. -/
  | bool (b : Bool)
  /-- An unsigned machine integer. -/
  | uint (w : Width) (x : BitVec w.bits)
  /-- A signed machine integer, in two's complement. -/
  | int (w : Width) (x : BitVec w.bits)
  /-- A text. -/
  | text (s : String)
  /-- Bytes written in place, padded to whole slots. -/
  | raw (bs : Bytes)
  /-- Nothing, but the tuple around it is dynamic. -/
  | marker
  /-- A tuple: the parts one after the other. -/
  | tuple (parts : List Value)
  /-- A sequence: the announced length, if any, and the elements. -/
  | seq (announced : Option Nat) (elements : List Value)
  /-- A value of a foreign kind, with what it holds. -/
  | foreign (kind : Foreign) (content : List Value)
  /-- A value of a pending kind. -/
  | pending (kind : Pending)
  /-- A value that reports an error of its own. -/
  | failure (message : String)

namespace Value

/-- A value wrapped into a record of its own. -/
def wrapped (v : Value) : Value := .tuple [v]

/-- A byte string of any length: marked dynamic, then the length, then the bytes. -/
def bytes (bs : Bytes) : Value :=
  .tuple [.marker, .uint .w64 (BitVec.ofNat 64 bs.length), .raw bs]

/-- An array of any length. -/
def array (vs : List Value) : Value := .seq (some vs.length) vs

/-- A byte string of fixed length, aligned to the left of its slots. -/
def fixed {n : Nat} (x : FixedBytes n) : Value := .raw x.toBytes

/-- An address: like a number, it is aligned to the right of its slot. -/
def address (a : Address) : Value := .raw (List.replicate 12 0 ++ a.toBytes)

/-- A number of 256 bits, signed or not. -/
def word (x : BitVec 256) : Value := .raw (Slot.toBytes x)

/-- A number of eight bits. -/
def byte (x : UInt8) : Value := .uint .w8 x.toBitVec

/-- A number of 32 bits. -/
def word32 (x : UInt32) : Value := .uint .w32 x.toBitVec

/-- A number of 64 bits. -/
def word64 (x : UInt64) : Value := .uint .w64 x.toBitVec

end Value

end PaymentChannel.Abi
