import PresetPipeline.Document.View
import PresetPipeline.Json.Reader

/-!
# JSON as a document format

A number outside the range of doubles and half of a surrogate pair are faults of the text, but only
where the value is consumed.

* `JsonSource.consume` — reads a whole JSON text with a reader.
-/

set_option autoImplicit false

namespace PresetPipeline

namespace JsonSource

/-- What stands at a place of a JSON text. -/
def view : JsonSource → View JsonSource
  | .array items closed => .list items closed
  | .object members closed => .mapping (members.map fun (k, v) => (.string k, v)) closed
  | .broken => .broken
  | _ => .scalar

/-- A scalar that is not what is needed is still read to its end. -/
def mismatch : JsonSource → Fault
  | .number literal => if literal.value?.isSome then .invalidType else .malformed
  | .string none => .malformed
  | .broken => .malformed
  | _ => .invalidType

def text : JsonSource → Except Fault String
  | .string (some s) => .ok s
  | j => .error j.mismatch

/-- A whole literal of 64 bits. -/
def word : JsonSource → Except Fault UInt64
  | .number literal =>
    match literal.value? with
    | none => .error .malformed
    | some (.integer n) => if 0 ≤ n then .ok n.toNat.toUInt64 else .error .invalidValue
    | some (.real _) => .error .invalidType
  | j => .error j.mismatch

def real : JsonSource → Except Fault Float
  | .number literal =>
    match literal.value? with
    | none => .error .malformed
    | some (.integer n) => .ok (Float.ofInt n)
    | some (.real x) => .ok x
  | j => .error j.mismatch

def flag : JsonSource → Except Fault Bool
  | .bool b => .ok b
  | j => .error j.mismatch

def isUnset : JsonSource → Except Fault Bool
  | .null => .ok true
  | _ => .ok false

end JsonSource

/-- No node refers to another. -/
instance : Document JsonSource where
  resolve j n := .ok (j, n)
  view := JsonSource.view
  mismatch := JsonSource.mismatch
  text := JsonSource.text
  word := JsonSource.word
  real := JsonSource.real
  flag := JsonSource.flag
  isUnset := JsonSource.isUnset
  isBlank _ := false
  positional := true
  surplus := .malformed

/-- Reads a whole text. The value comes first; text after it is a fault. -/
def JsonSource.consume {α : Type} (read : Reader JsonSource α) (text : String) : Except Fault α :=
  let (source, ended) := JsonSource.ofString text
  match read source 0 with
  | .error e => .error e
  | .ok (a, _) => atEnd ended a

end PresetPipeline
