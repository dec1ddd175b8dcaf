import PaymentChannel.Bytes

/-!
# Nonces of new channels

A nonce makes the id of a new channel differ from those of earlier ones. It is made of the time,
of random bits and of the address that opens the channel, and kept below 2⁶³ so that it can be
stored as a signed number.
-/

namespace PaymentChannel

/-- The bits that a nonce may have. -/
def nonceMask : UInt64 := 0x7fffffffffffffff

/-- The nonce for the given time, in seconds, random bits and address. -/
def channelNonce (now : UInt64) (random : UInt32) (address : Option Address) : UInt64 :=
  let drawn := now <<< 32 ||| random.toUInt64
  let mixed := match address with
    | some a => drawn ^^^ ⟨a.lowWord⟩
    | none => drawn
  mixed &&& nonceMask

end PaymentChannel
