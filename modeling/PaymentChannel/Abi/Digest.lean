import PaymentChannel.Abi.Writer
import PaymentChannel.Hash.Keccak

/-!
# Hashes of encodings

The contracts hash the bytes of an encoding: of a value on its own (`digest`), or of the parts of a
tuple as arguments (`argumentDigest`).
-/

namespace PaymentChannel.Abi

/-- The hash of the encoding of a value on its own. -/
def digest (v : Value) : Except Error Hash :=
  (fun slots => keccak256 (Slot.flatten slots)) <$> encoding v

/-- The hash of the encoding of the parts of a tuple. -/
def argumentDigest (v : Value) : Except Error Hash := keccak256 <$> argumentBytes v

end PaymentChannel.Abi
