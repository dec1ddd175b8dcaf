import PaymentChannel.Text.Invisible

/-!
# Quoted text

How messages quote texts and characters: between quotes of their kind, with a backslash before the
quote and the backslash, short escapes for line ends, tabs and the zero character, and the code in
place of every other character that cannot be shown.
-/

namespace PaymentChannel.Quoted

/-- The lower-case hexadecimal digits of a number, without leading zeros. -/
def hexDigits (n : Nat) : String := String.ofList (Nat.toDigits 16 n)

/-- One character inside quotes of the given kind. -/
def escape (quote c : Char) : String :=
  match c with
  | '\x00' => "\\0"
  | '\t' => "\\t"
  | '\r' => "\\r"
  | '\n' => "\\n"
  | '\\' => "\\\\"
  | c =>
    if c = quote then String.ofList ['\\', c]
    else if Text.isInvisible c then "\\u\x7b" ++ hexDigits c.toNat ++ "\x7d"
    else String.singleton c

/-- A quoted text. -/
def text (s : String) : String := "\"" ++ String.join (s.toList.map (escape '"')) ++ "\""

/-- A quoted character. -/
def character (c : Char) : String := "'" ++ escape '\'' c ++ "'"

end PaymentChannel.Quoted
