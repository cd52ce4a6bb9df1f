import PresetPipeline.Document.Fault

/-!
# Views of documents

What a reader of records needs to know of a text format. Parts are looked at in the order of the
text, so the first fault of a document is the one that is reported. A format may let one node refer
to another; references are followed a limited number of times.

* `Document` — the class of formats: what a node is, and how a scalar reads as a value.
* `Reader` — what reads a value out of a node.
* `readList`, `readPair`, `readOption` — readers built from readers of parts.
-/

set_option autoImplicit false

namespace PresetPipeline

/-- What stands at a place of a document. A list or a mapping is not `closed` when the text breaks
inside it. -/
inductive View (δ : Type) where
  | scalar
  | list (items : List δ) (closed : Bool)
  | mapping (entries : List (δ × δ)) (closed : Bool)
  | broken

/-- What is read, with the number of references that may be followed after it, or the first
fault. -/
abbrev Counted (α : Type) := Except Fault (α × Nat)

/-- Reads a value out of a node. The number says how many references may still be followed. -/
abbrev Reader (δ α : Type) := δ → Nat → Counted α

/-- A text format, seen through its nodes. All but `resolve` are asked of nodes that refer to no
other node. -/
class Document (δ : Type) where
  /-- The node itself, or the one that it refers to. -/
  resolve : Reader δ δ
  view : δ → View δ
  /-- The fault of a scalar where something else is needed. -/
  mismatch : δ → Fault
  text : δ → Except Fault String
  word : δ → Except Fault UInt64
  real : δ → Except Fault Float
  flag : δ → Except Fault Bool
  /-- Whether an optional value is absent. -/
  isUnset : δ → Except Fault Bool
  /-- Whether a scalar stands for an empty list or an empty mapping. -/
  isBlank : δ → Bool
  /-- Whether a record may be written as the list of its fields. -/
  positional : Bool
  /-- The fault of a list with too many elements. -/
  surplus : Fault

variable {δ α β : Type} [Document δ]

/-- Reads a scalar, or what a reference to one stands for. -/
def readScalar (read : δ → Except Fault α) : Reader δ α := fun d n =>
  match Document.resolve d n with
  | .error e => .error e
  | .ok (d, n) =>
    match read d with
    | .error e => .error e
    | .ok a => .ok (a, n)

def readText : Reader δ String := readScalar Document.text

def readWord : Reader δ UInt64 := readScalar Document.word

def readReal : Reader δ Float := readScalar Document.real

def readFlag : Reader δ Bool := readScalar Document.flag

/-- A whole number of 32 bits. -/
def readIndex : Reader δ UInt32 := readScalar fun d =>
  match Document.word d with
  | .error e => .error e
  | .ok n => if n.toNat < UInt32.size then .ok n.toUInt32 else .error .invalidValue

/-- The fault of a node that is neither of the expected shapes. -/
def unexpected (d : δ) : Fault :=
  match Document.view d with
  | .scalar => Document.mismatch d
  | .broken => .malformed
  | _ => .invalidType

/-- The items of a list, and whether it is closed. -/
def readItems : Reader δ (List δ × Bool) := readScalar fun d =>
  match Document.view d with
  | .list items closed => .ok (items, closed)
  | .scalar => if Document.isBlank d then .ok ([], true) else .error (Document.mismatch d)
  | _ => .error (unexpected d)

/-- The end of a list or mapping: a text that breaks inside it is malformed. -/
def atEnd (closed : Bool) (a : α) : Except Fault α :=
  if closed then .ok a else .error .malformed

/-- The values of a list, read in order. -/
def readAll (read : Reader δ α) : List δ → Nat → Counted (List α)
  | [], n => .ok ([], n)
  | d :: rest, n =>
    match read d n with
    | .error e => .error e
    | .ok (a, n) =>
      match readAll read rest n with
      | .error e => .error e
      | .ok (as, n) => .ok (a :: as, n)

def readList (read : Reader δ α) : Reader δ (List α) := fun d n =>
  match readItems d n with
  | .error e => .error e
  | .ok ((items, closed), n) =>
    match readAll read items n with
    | .error e => .error e
    | .ok result => atEnd closed result

/-- What is wrong when the list ends before the next element. -/
def tooShort (closed : Bool) : Fault := if closed then .invalidLength else .malformed

/-- What is wrong when the list goes on after the last element. -/
def tooLong (δ : Type) [Document δ] (closed : Bool) : Fault :=
  if closed then Document.surplus δ else .malformed

def readPair (first : Reader δ α) (second : Reader δ β) : Reader δ (α × β) := fun d n =>
  match readItems d n with
  | .error e => .error e
  | .ok (([], closed), _) => .error (tooShort closed)
  | .ok ((d₁ :: rest, closed), n) =>
    match first d₁ n with
    | .error e => .error e
    | .ok (a, n) =>
      match rest with
      | [] => .error (tooShort closed)
      | d₂ :: rest =>
        match second d₂ n with
        | .error e => .error e
        | .ok (b, n) =>
          match rest with
          | [] => atEnd closed ((a, b), n)
          | _ :: _ => .error (tooLong δ closed)

/-- A value that may be absent. A reference to it counts once. -/
def readOption (read : Reader δ α) : Reader δ (Option α) := fun d n =>
  match Document.resolve d n with
  | .error e => .error e
  | .ok (d, n) =>
    match Document.isUnset d with
    | .error e => .error e
    | .ok true => .ok (none, n)
    | .ok false =>
      match read d n with
      | .error e => .error e
      | .ok (a, n) => .ok (some a, n)

end PresetPipeline
