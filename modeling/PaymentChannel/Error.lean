import PaymentChannel.Json.Reader
import PaymentChannel.Signing.Signer

/-!
# Errors

Every error of the library says what is wrong, except for those that come from outside
(`Error.external`): of these only the text is known. They are wrapped where it is known which
operation failed, and only once: all other errors pass through wrapping unchanged.
-/

namespace PaymentChannel

/-- Why an operation fails. -/
inductive Error where
  /-- A value that is needed is absent. -/
  | missingParameter (name : String)
  /-- A value is present, but cannot be right. -/
  | invalidParameter (name reason : String)
  /-- A contract call cannot be prepared. The source is the text of the error from outside. -/
  | contractCall (operation context source : String)
  /-- A call cannot be sent. -/
  | transaction (operation context source : String)
  /-- The contract cannot be read. -/
  | contractRead (operation context source : String)
  /-- A value cannot be encoded. -/
  | encoding (error : Abi.Error)
  /-- A signer does not sign. -/
  | signing (error : SignError)
  /-- A configuration cannot be read. -/
  | configuration (fault : Json.Fault)
  /-- An error from outside. -/
  | external (text : String)
  deriving DecidableEq, Repr

namespace Error

/-- Whether the error has been classified. -/
def isTyped : Error → Bool
  | external _ => false
  | _ => true

/-- Classifies an error from outside as a failed preparation. -/
def asCall (operation context : String) : Error → Error
  | external text => contractCall operation context text
  | e => e

/-- Classifies an error from outside as a failed reading. -/
def asRead (operation context : String) : Error → Error
  | external text => contractRead operation context text
  | e => e

/-- Classifies an error from outside as a failed transaction. -/
def asTransaction (operation context : String) : Error → Error
  | external text => transaction operation context text
  | e => e

@[simp] theorem isTyped_asCall (operation context : String) (e : Error) :
    (e.asCall operation context).isTyped := by
  cases e <;> rfl

@[simp] theorem isTyped_asRead (operation context : String) (e : Error) :
    (e.asRead operation context).isTyped := by
  cases e <;> rfl

@[simp] theorem isTyped_asTransaction (operation context : String) (e : Error) :
    (e.asTransaction operation context).isTyped := by
  cases e <;> rfl

theorem asCall_of_isTyped {e : Error} (h : e.isTyped) (operation context : String) :
    e.asCall operation context = e := by
  cases e <;> simp_all [isTyped, asCall]

theorem asRead_of_isTyped {e : Error} (h : e.isTyped) (operation context : String) :
    e.asRead operation context = e := by
  cases e <;> simp_all [isTyped, asRead]

theorem asTransaction_of_isTyped {e : Error} (h : e.isTyped) (operation context : String) :
    e.asTransaction operation context = e := by
  cases e <;> simp_all [isTyped, asTransaction]

/-- What is wrong with a document, as far as it can be told apart from its place. -/
def describeFault : Json.Fault → String
  | .data message => message
  | .malformed => "malformed document"
  | .unfinished => "unfinished document"

/-- The error as text. -/
def message : Error → String
  | missingParameter name => s!"missing required parameter: {name}"
  | invalidParameter name reason => s!"invalid parameter {name}: {reason}"
  | contractCall operation context _ => s!"failed to prepare {operation} ({context})"
  | transaction operation context _ => s!"transaction {operation} failed ({context})"
  | contractRead operation context _ => s!"failed to read {operation} ({context})"
  | encoding e => s!"abi encoding failed: {e.message}"
  | signing e => s!"signing failed: {e.message}"
  | configuration fault => s!"malformed configuration: {describeFault fault}"
  | external text => text

/-- The text of the error behind this one, if there is one. -/
def source? : Error → Option String
  | contractCall _ _ source | transaction _ _ source | contractRead _ _ source => some source
  | encoding e => some e.message
  | signing e => some e.message
  | _ => none

/-! ## Faults of parameters -/

/-- Parameters of one protocol were given to an account that is configured for another. -/
def protocolMismatch (requested configured : Protocol) : Error :=
  invalidParameter "protocol"
    s!"{requested.describe} request against a {configured.describe} configuration"

/-- A value that must not be zero is. -/
def zeroParameter (name : String) : Error := invalidParameter name "must not be zero"

/-- A list has another length than it must have. -/
def wrongCount (name : String) (expected actual : Nat) : Error :=
  invalidParameter name s!"expected {expected}, got {actual}"

end Error

end PaymentChannel
