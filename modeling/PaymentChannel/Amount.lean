import PaymentChannel.Int256
import PaymentChannel.Text.Blank

/-!
# Amounts of tokens

People write amounts as decimals, such as `1.5`; contracts count base units, of which the token's
*decimals* say how many powers of ten make up one token.

* `Amount.parse` reads a decimal as base units, exactly or not at all;
* `Amount.format` writes base units as the shortest decimal.
-/

namespace PaymentChannel.Amount

/-- Why a text is not an amount. -/
inductive Error where
  | empty
  | notDecimal
  | tooManyPlaces
  | tooLarge
  deriving DecidableEq, Repr

/-- The error as text. -/
def Error.message : Error → String
  | empty => "empty"
  | notDecimal => "not a decimal number"
  | tooManyPlaces => "too many decimal places"
  | tooLarge => "does not fit into 256 bits"

/-- The parts of a text before and after the first point. -/
def splitPoint (text : List Char) : List Char × List Char :=
  (text.takeWhile (· ≠ '.'), (text.dropWhile (· ≠ '.')).tail)

/-- The number that decimal digits spell. -/
def digitsValue (digits : List Char) : Nat :=
  digits.foldl (fun n c => 10 * n + (c.toNat - '0'.toNat)) 0

/-- Reads a decimal, with white space around it or not, as base units. -/
def parse (text : String) (decimals : UInt8) : Except Error UInt256 :=
  let (whole, fraction) := splitPoint (Text.trim text.toList)
  if whole.isEmpty && fraction.isEmpty then throw .empty
  else if !(whole ++ fraction).all Char.isDigit then throw .notDecimal
  else if fraction.length > decimals.toNat then throw .tooManyPlaces
  else
    -- With zeros for the places that are missing, all digits together spell base units.
    let zeros := List.replicate (decimals.toNat - fraction.length) '0'
    match UInt256.ofNat? (digitsValue (whole ++ fraction ++ zeros)) with
    | some units => pure units
    | none => throw .tooLarge

/-- The list without the zeros at its end. -/
def stripZeros (digits : List Char) : List Char :=
  (digits.reverse.dropWhile (· = '0')).reverse

/-- Writes base units as a decimal: no zero in front that could be left out, and no fraction that
    ends in a zero. -/
def format (units : UInt256) (decimals : UInt8) : String :=
  let digits := Nat.toDigits 10 units.toNat
  let padded := List.replicate (decimals.toNat + 1 - digits.length) '0' ++ digits
  let (whole, fraction) := padded.splitAt (padded.length - decimals.toNat)
  match stripZeros fraction with
  | [] => String.ofList whole
  | places => String.ofList (whole ++ '.' :: places)

end PaymentChannel.Amount
