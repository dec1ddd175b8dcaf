/-!
# Record notation

How messages spell out what an operation was given: records with their fields, lists, and values
that may be absent.
-/

namespace PaymentChannel.Record

/-- A record: its name, then its fields between braces. -/
def record (name : String) (fields : List (String × String)) : String :=
  name ++ " \x7b " ++ ", ".intercalate (fields.map fun f => f.1 ++ ": " ++ f.2) ++ " \x7d"

/-- A value that may be absent. -/
def optional : Option String → String
  | none => "None"
  | some s => "Some(" ++ s ++ ")"

/-- A list of values. -/
def list (items : List String) : String := "[" ++ ", ".intercalate items ++ "]"

end PaymentChannel.Record
