import PaymentChannel.Json.Number
import PaymentChannel.Text.Quoted

/-!
# Reading documents

A document is read from its first character to its last by a `Reader`, which knows what it expects
at every place. The first thing that is wrong ends the reading, whether it is the document that is
none (`Fault.malformed`, or `Fault.unfinished` if it ends too soon) or a value that is not what was
expected there (`Fault.data`).

What nobody asks for is passed over by `skipValue`, which is less strict: there, numbers may be of
any size, and texts may hold halves of characters.
-/

namespace PaymentChannel.Json

/-- Why a document cannot be read. -/
inductive Fault where
  /-- A value is not what was expected. -/
  | data (message : String)
  /-- The text is no document. -/
  | malformed
  /-- The text ends within a document. -/
  | unfinished
  deriving DecidableEq, Repr

/-- A computation that reads from the front of a text. -/
abbrev Reader := StateT (List Char) (Except Fault)

/-- The next character, which stays there. -/
def peek : Reader (Option Char) := return (← get).head?

/-- Passes over one character. -/
def advance : Reader Unit := modify List.tail

/-- Whether a character may stand between the parts of a document. -/
def isSpace (c : Char) : Bool := c = ' ' || c = '\n' || c = '\t' || c = '\r'

/-- Passes over spaces; returns the character after them, which stays there. -/
def skipSpaces : Reader (Option Char) := do
  modify (List.dropWhile isSpace)
  peek

/-- Passes over the given characters, and no others. -/
def expect : List Char → Reader Unit
  | [] => pure ()
  | c :: rest => do
    match ← peek with
    | none => throw .unfinished
    | some d =>
      advance
      if d = c then expect rest else throw .malformed

/-! ## Texts -/

/-- A piece of a text: a character, or a code that an escape gives in hexadecimal digits. -/
inductive Piece where
  | char (c : Char)
  | code (n : Nat)

/-- The pieces of a text and what comes after its closing quote, or the fault that ends it. -/
structure Pieces where
  pieces : List Piece
  rest : Except Fault (List Char)

/-- Adds a piece in front. -/
def Pieces.cons (p : Piece) (ps : Pieces) : Pieces := ⟨p :: ps.pieces, ps.rest⟩

/-- The text goes wrong at once. -/
def Pieces.stop (fault : Fault) : Pieces := ⟨[], .error fault⟩

/-- The value of a hexadecimal digit. -/
def hexValue (c : Char) : Option Nat :=
  if '0' ≤ c ∧ c ≤ '9' then some (c.toNat - '0'.toNat)
  else if 'a' ≤ c ∧ c ≤ 'f' then some (c.toNat - 'a'.toNat + 10)
  else if 'A' ≤ c ∧ c ≤ 'F' then some (c.toNat - 'A'.toNat + 10)
  else none

/-- The number that four hexadecimal digits spell. -/
def hexCode (a b c d : Char) : Option Nat := do
  pure (16 * (16 * (16 * (← hexValue a) + (← hexValue b)) + (← hexValue c)) + (← hexValue d))

/-- The character that a backslash and the given one stand for. -/
def unescape : Char → Option Char
  | '"' => some '"'
  | '\\' => some '\\'
  | '/' => some '/'
  | 'b' => some '\x08'
  | 'f' => some '\x0c'
  | 'n' => some '\n'
  | 'r' => some '\r'
  | 't' => some '\t'
  | _ => none

/-- The pieces of a text whose opening quote has been read. -/
def scanText : List Char → Pieces
  | [] => .stop .unfinished
  | '"' :: rest => ⟨[], .ok rest⟩
  | '\\' :: 'u' :: a :: b :: c :: d :: rest =>
    match hexCode a b c d with
    | some n => (scanText rest).cons (.code n)
    | none => .stop .malformed
  | '\\' :: 'u' :: rest =>
    .stop (if (String.ofList rest).utf8ByteSize < 4 then .unfinished else .malformed)
  | '\\' :: c :: rest =>
    match unescape c with
    | some x => (scanText rest).cons (.char x)
    | none => .stop .malformed
  | ['\\'] => .stop .unfinished
  | c :: rest => if c.toNat < 0x20 then .stop .malformed else (scanText rest).cons (.char c)

/-- Whether a code is the first half of a character. -/
def isHighHalf (n : Nat) : Bool := 0xd800 ≤ n && n < 0xdc00

/-- Whether a code is the second half of a character. -/
def isLowHalf (n : Nat) : Bool := 0xdc00 ≤ n && n < 0xe000

/-- The characters that the pieces make up: two halves make one, and none may be left over. If the
    text goes wrong behind the pieces, a half at their end goes wrong in the same way. -/
def joinPieces (fault : Option Fault) : List Piece → Except Fault (List Char)
  | [] => match fault with
    | some f => throw f
    | none => pure []
  | .char c :: rest => (c :: ·) <$> joinPieces fault rest
  | .code n :: rest =>
    if isLowHalf n then throw .malformed
    else if isHighHalf n then
      match rest with
      | .code m :: rest =>
        if isLowHalf m then
          let c := Char.ofNat (0x10000 + 0x400 * (n - 0xd800) + (m - 0xdc00))
          (c :: ·) <$> joinPieces fault rest
        else throw .malformed
      | .char _ :: _ => throw .malformed
      | [] => throw (fault.getD .malformed)
    else (Char.ofNat n :: ·) <$> joinPieces fault rest

/-- Reads the rest of a text whose opening quote has been read. -/
def readText : Reader String := do
  let scanned := scanText (← get)
  match scanned.rest with
  | .ok rest =>
    let chars ← joinPieces none scanned.pieces
    set rest
    pure (String.ofList chars)
  | .error fault =>
    let _ ← joinPieces (some fault) scanned.pieces
    throw fault

/-- Passes over the rest of a text whose opening quote has been read. -/
def skipText : Reader Unit := do
  set (← (scanText (← get)).rest)

/-! ## Numbers -/

/-- Reads digits, as many as there are. -/
def readDigits : Reader (List Char) := do
  let text ← get
  set (text.dropWhile Char.isDigit)
  pure (text.takeWhile Char.isDigit)

/-- Reads digits, at least one. The fault is what becomes of a number that ends before them. -/
def readSomeDigits (cut : Fault) : Reader (List Char) := do
  let digits ← readDigits
  if digits.isEmpty then
    throw (if (← peek).isNone then cut else .malformed)
  pure digits

/-- Reads the digits before a point: there is only one if the first of them is zero. -/
def readWhole (cut : Fault) : Reader (List Char) := do
  let digits ← readSomeDigits cut
  if digits.head? = some '0' && digits.length ≠ 1 then throw .malformed
  pure digits

/-- Reads an exponent, if there is one: whether it is negative, and its digits. -/
def readExponent (cut : Fault) : Reader (Option (Bool × List Char)) := do
  match ← peek with
  | some 'e' | some 'E' =>
    advance
    let sign ← peek
    if sign = some '+' || sign = some '-' then advance
    return some (sign = some '-', ← readSomeDigits cut)
  | _ => return none

/-- Reads a number as it is written. -/
def readNumeral (cut : Fault) : Reader Numeral := do
  let negative := (← peek) = some '-'
  if negative then advance
  let whole ← readWhole cut
  let fraction ← do
    if (← peek) = some '.' then
      advance
      some <$> readSomeDigits cut
    else pure none
  pure ⟨negative, whole, fraction, ← readExponent cut⟩

/-- Reads a number. -/
def readNumber : Reader Number := do
  match (← readNumeral .unfinished).value with
  | some n => pure n
  | none => throw .malformed

/-- Passes over a number. One that is cut short is taken for a wrong one. -/
def skipNumber : Reader Unit := do
  let _ ← readNumeral .malformed

/-! ## Values that nobody asks for -/

mutual

/-- Passes over a value. -/
def skipValueIn : (steps : Nat) → Reader Unit
  | 0 => throw .malformed
  | steps + 1 => do
    match ← skipSpaces with
    | none => throw .unfinished
    | some 'n' => expect "null".toList
    | some 't' => expect "true".toList
    | some 'f' => expect "false".toList
    | some '"' =>
      advance
      skipText
    | some '[' =>
      advance
      if (← skipSpaces) = some ']' then advance else skipElementsIn steps
    | some '{' =>
      advance
      if (← skipSpaces) = some '}' then advance else skipMembersIn steps
    | some c => if c = '-' || c.isDigit then skipNumber else throw .malformed

/-- Passes over elements and the closing bracket. -/
def skipElementsIn : (steps : Nat) → Reader Unit
  | 0 => throw .malformed
  | steps + 1 => do
    skipValueIn steps
    match ← skipSpaces with
    | some ',' =>
      advance
      skipElementsIn steps
    | some ']' => advance
    | some _ => throw .malformed
    | none => throw .unfinished

/-- Passes over members and the closing brace. -/
def skipMembersIn : (steps : Nat) → Reader Unit
  | 0 => throw .malformed
  | steps + 1 => do
    match ← skipSpaces with
    | some '"' =>
      advance
      skipText
    | some _ => throw .malformed
    | none => throw .unfinished
    match ← skipSpaces with
    | some ':' => advance
    | some _ => throw .malformed
    | none => throw .unfinished
    skipValueIn steps
    match ← skipSpaces with
    | some ',' =>
      advance
      skipMembersIn steps
    | some '}' => advance
    | some _ => throw .malformed
    | none => throw .unfinished

end

/-- Passes over a value. No value has more parts within parts than twice its characters. -/
def skipValue : Reader Unit := do
  skipValueIn (2 * (← get).length + 2)

/-! ## Values of a kind -/

/-- How a message names a number. -/
def Number.describe : Number → String
  | natural n => s!"integer `{n}`"
  | negative n => s!"integer `-{n}`"
  | float x => s!"floating point `{floatText x}`"

/-- Reads as much of a value of another kind as it takes to name it, and fails. -/
def mismatch {α : Type} (expected : String) : Reader α := do
  let found ← do
    match ← peek with
    | some 'n' =>
      expect "null".toList
      pure "null"
    | some 't' =>
      expect "true".toList
      pure "boolean `true`"
    | some 'f' =>
      expect "false".toList
      pure "boolean `false`"
    | some '"' =>
      advance
      pure ("string " ++ Quoted.text (← readText))
    -- What is inside a sequence or a map does not matter to the message.
    | some '[' => pure "sequence"
    | some '{' => pure "map"
    | some c =>
      if c = '-' || c.isDigit then
        pure (← readNumber).describe
      else throw .malformed
    | none => throw .malformed
  throw (.data s!"invalid type: {found}, expected {expected}")

/-- Reads a whole number below a limit. -/
def readNatural (limit : Nat) (expected : String) : Reader Nat := do
  match ← skipSpaces with
  | none => throw .unfinished
  | some c =>
    if c = '-' || c.isDigit then
      match ← readNumber with
      | .natural n =>
        if n < limit then pure n
        else throw (.data s!"invalid value: {(Number.natural n).describe}, expected {expected}")
      | .negative n =>
        throw (.data s!"invalid value: {(Number.negative n).describe}, expected {expected}")
      | .float x =>
        throw (.data s!"invalid type: {(Number.float x).describe}, expected {expected}")
    else mismatch expected

/-- Reads a text. -/
def readString (expected : String) : Reader String := do
  match ← skipSpaces with
  | none => throw .unfinished
  | some '"' =>
    advance
    readText
  | some _ => mismatch expected

/-- Reads the colon after the name of a member. -/
def readColon : Reader Unit := do
  match ← skipSpaces with
  | some ':' => advance
  | some _ => throw .malformed
  | none => throw .unfinished

/-- What is in front of the reader within an array. -/
inductive Element where
  | next
  | close
  deriving DecidableEq

/-- Passes over what separates elements. -/
def readSeparator (first : Bool) : Reader Element := do
  match ← skipSpaces with
  | none => throw .unfinished
  | some ']' => pure .close
  | some c =>
    if first then pure .next
    else if c = ',' then
      advance
      match ← skipSpaces with
      | some ']' => throw .malformed
      | some _ => pure .next
      | none => throw .unfinished
    else throw .malformed

/-- Reads the closing bracket of an array. -/
def readClosing : Reader Unit := do
  match ← skipSpaces with
  | some ']' => advance
  | some _ => throw .malformed
  | none => throw .unfinished

/-- Reads the name of the next member, or the closing brace. -/
def readName (first : Bool) : Reader (Option String) := do
  let c ← skipSpaces
  if c = some '}' then
    advance
    return none
  if !first then
    match c with
    | some ',' => advance
    | some _ => throw .malformed
    | none => throw .unfinished
  match ← skipSpaces with
  | some '"' =>
    advance
    some <$> readText
  | some _ => throw .malformed
  | none => throw .unfinished

/-- Nothing but spaces may follow a document. -/
def readEnd : Reader Unit := do
  if (← skipSpaces).isSome then throw .malformed

/-- Reads a whole text. -/
def run {α : Type} (reader : Reader α) (text : String) : Except Fault α :=
  Prod.fst <$> (do let a ← reader; readEnd; pure a : Reader α).run text.toList

end PaymentChannel.Json
