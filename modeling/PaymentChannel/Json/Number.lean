import PaymentChannel.Decimal.Shortest

/-!
# Numbers in documents

Whole numbers of up to 64 bits are kept exactly; all others become floating point numbers, with an
accuracy that depends on how they are written: as many leading digits as fit into 64 bits are
taken as a whole number, and then multiplied with or divided by a power of ten.
-/

namespace PaymentChannel.Json

/-- A number as it is kept. -/
inductive Number where
  /-- A whole number below 2⁶⁴. -/
  | natural (n : Nat)
  /-- The opposite of a whole number from 1 to 2⁶³. -/
  | negative (n : Nat)
  /-- Any other number. -/
  | float (x : Float)

/-- A number as it is written: a sign, digits, perhaps digits after a point, perhaps an exponent. -/
structure Numeral where
  negative : Bool
  whole : List Char
  fraction : Option (List Char)
  exponent : Option (Bool × List Char)

/-- The value of a digit. -/
def digitValue (c : Char) : Nat := c.toNat - '0'.toNat

/-- Appends digits to a number as long as it stays below 2⁶⁴, and returns the digits left over. -/
def appendDigits : (n : Nat) → List Char → Nat × List Char
  | n, [] => (n, [])
  | n, c :: rest =>
    let longer := n * 10 + digitValue c
    if longer < UInt64.size then appendDigits longer rest else (n, c :: rest)

/-- Multiplies with or divides by a power of ten, in steps for powers that are too large to be
    floating point numbers themselves. There is no result if it would be infinite. -/
def scale : (steps : Nat) → Float → (exponent : Int) → Option Float
  | 0, x, _ => some x
  | steps + 1, x, exponent =>
    let power := Float.ofScientific 1 false exponent.natAbs
    if exponent.natAbs ≤ 308 then
      if 0 ≤ exponent then
        if (x * power).isInf then none else some (x * power)
      else some (x / power)
    else if x == 0 then some x
    else if 0 ≤ exponent then none
    else scale steps (x / 1e308) (exponent + 308)

namespace Numeral

/-- The number that is written, if it is not too large. -/
def value (w : Numeral) : Option Number :=
  -- Digits that are left over count for the place of the point only.
  let (n, left) := appendDigits 0 w.whole
  let isWhole := w.fraction.isNone && w.exponent.isNone && left.isEmpty
  let places := w.fraction.getD []
  let (n, unused) := appendDigits n places
  let point : Int := (left.length : Int) - ((places.length : Int) - (unused.length : Int))
  let signed (x : Float) : Number := .float (if w.negative then -x else x)
  if isWhole && !w.negative then some (.natural n)
  -- There is no negative zero among whole numbers.
  else if isWhole && 0 < n && n ≤ UInt64.size / 2 then some (.negative n)
  else
    match w.exponent with
    | none => (scale 4 (UInt64.ofNat n).toFloat point).map signed
    | some (down, digits) =>
      let e := digits.foldl (fun e c => 10 * e + digitValue c) 0
      if UInt32.size / 2 ≤ e then
        if n ≠ 0 && !down then none else some (signed 0)
      else
        (scale 4 (UInt64.ofNat n).toFloat (if down then point - e else point + e)).map signed

end Numeral

/-- A floating point number as messages spell it: the shortest decimal, positional if its first
    digit is between five places after the point and sixteen before it. -/
def floatText (x : Float) : String :=
  let sign := if x.toBits >>> 63 == 1 then "-" else ""
  match Decimal.Binary.ofBits? x.toBits with
  | none => sign ++ "0.0"
  | some b =>
    let (digits, place) := b.shortest
    let text (cs : List Char) : String := String.ofList cs
    let zeros (n : Int) : List Char := List.replicate n.toNat '0'
    let body :=
      if 0 ≤ place && place ≤ 15 then
        let whole := (digits ++ zeros (place + 1 - digits.length)).take (place.toNat + 1)
        let places := digits.drop (place.toNat + 1)
        text whole ++ "." ++ (if places.isEmpty then "0" else text places)
      else if -5 ≤ place && place < 0 then
        "0." ++ text (zeros (-place - 1) ++ digits)
      else
        let places := digits.drop 1
        let mantissa := text (digits.take 1) ++ (if places.isEmpty then "" else "." ++ text places)
        mantissa ++ (if place < 0 then "e-" else "e+") ++ toString place.natAbs
    sign ++ body

end PaymentChannel.Json
