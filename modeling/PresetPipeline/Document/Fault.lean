/-!
# Faults of documents

Why a document is not a record of the expected kind.

* `Fault` — the kinds of faults, the same for every text format.
* `Fault.message` — the kind of a fault in words.
-/

set_option autoImplicit false

namespace PresetPipeline

/-- The first thing that is wrong with a document. -/
inductive Fault where
  /-- A record is complete but is refused by its own check, with this message. -/
  | rejected (message : String)
  | unknownField (name : String)
  | missingField (name : String)
  | duplicateField (name : String)
  /-- Another kind of value is needed here. -/
  | invalidType
  /-- The kind is right, but the value is out of range. -/
  | invalidValue
  /-- A list has too few elements. -/
  | invalidLength
  /-- The text breaks the rules of its format. -/
  | malformed
  deriving DecidableEq, Repr

/-- The kind of a fault in words. `malformed` is what the format calls a text that breaks its rules.
Readers of documents say more, such as the place of the fault. -/
def Fault.message (malformed : String) : Fault → String
  | .rejected message => message
  | .unknownField name => "unknown field `" ++ name ++ "`"
  | .missingField name => "missing field `" ++ name ++ "`"
  | .duplicateField name => "duplicate field `" ++ name ++ "`"
  | .invalidType => "invalid type"
  | .invalidValue => "invalid value"
  | .invalidLength => "invalid length"
  | .malformed => malformed

end PresetPipeline
