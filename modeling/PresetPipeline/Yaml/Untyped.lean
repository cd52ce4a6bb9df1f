import PresetPipeline.Json.Value
import PresetPipeline.Yaml.Document

/-!
# Values of unknown kind in YAML

Where the kind of a value is not known, the text and the tag of a scalar decide. Collections are
nested to a limited depth.

* `scalarValue` — the value of a scalar.
* `readValue` — the value of a node.
* `readMembers` — a mapping with values of unknown kind; a repeated key keeps its last value.
-/

set_option autoImplicit false

namespace PresetPipeline.Yaml

/-- Whether a whole number fits a word of 64 bits, with or without a sign. -/
def fitsWord (n : Int) : Bool := -Int.pow 2 63 ≤ n && n < Int.pow 2 64

def Plain.toJson (text : String) : Plain → Except Fault Json
  | .null => .ok .null
  | .flag b => .ok (.bool b)
  | .integer n => if fitsWord n then .ok (.ofInt n) else .error .malformed
  | .real x => .ok (.ofFloat x)
  | .text => .ok (.string text)

/-- Whether a private tag names a kind of value, which no value here has. A tag whose bytes are no
text names none. -/
def namesKind : Option Tag → Bool
  | none => false
  | some tag => tag.isPrivate && tag.all Option.isSome

/-- The value of a scalar. -/
def scalarValue (tag : Option Tag) (text : String) (style : ScalarStyle) : Except Fault Json :=
  match tag with
  | some tag =>
    match Plain.ofTagged tag text style with
    | .error e => .error e
    | .ok plain => plain.toJson text
  | none => if style = .plain then (Plain.ofString text).toJson text else .ok (.string text)

/-- The members of a mapping, from left to right. -/
def readEntries (read : Reader Place Json) :
    SortedMap String Json → List (Place × Place) → Nat → Counted (SortedMap String Json)
  | m, [], n => .ok (m, n)
  | m, (k, v) :: rest, n =>
    match readText k n with
    | .error e => .error e
    | .ok (key, n) =>
      match read v n with
      | .error e => .error e
      | .ok (value, n) => readEntries read (m.insert key value) rest n

/-- The items of a list. -/
def readArray (read : Reader Place Json) (items : List Place) (closed : Bool) (n : Nat) :
    Counted Json :=
  match readAll read items n with
  | .error e => .error e
  | .ok (vs, n) => atEnd closed (.array vs, n)

/-- The entries of a mapping. -/
def readObject (read : Reader Place Json) (entries : List (Place × Place)) (closed : Bool)
    (n : Nat) : Counted (SortedMap String Json) :=
  match readEntries read .empty entries n with
  | .error e => .error e
  | .ok result => atEnd closed result

/-- The tag of a node. -/
def Node.tag? : Node → Option Tag
  | .scalar tag _ _ | .sequence tag _ _ | .mapping tag _ _ => tag
  | .alias _ | .broken => none

/-- The value of a scalar, and a fault of a node that is none. -/
def scalarAt (p : Place) : Except Fault Json :=
  match p.node with
  | .scalar tag text style => scalarValue tag text style
  | _ => .error .malformed

/-- The value of a node. A collection has room for its parts only if `depth` is positive. -/
def readValue : (depth : Nat) → Reader Place Json
  | 0 => readScalar fun p => if namesKind p.node.tag? then .error .invalidType else scalarAt p
  | depth + 1 => fun p n =>
    match p.resolve n with
    | .error e => .error e
    | .ok (p, n) =>
      if namesKind p.node.tag? then .error .invalidType
      else
        match p.view with
        | .list items closed => readArray (readValue depth) items closed n
        | .mapping entries closed =>
          match readObject (readValue depth) entries closed n with
          | .error e => .error e
          | .ok (m, n) => .ok (.ofMap m, n)
        | .scalar | .broken =>
          match scalarAt p with
          | .error e => .error e
          | .ok v => .ok (v, n)

/-- How deep collections are nested in a value that stands `level` levels below the root. -/
def depthBelow (level : Nat) : Nat := 128 - level

/-- A mapping at `level` with values of unknown kind. -/
def readMembers (level : Nat) : Reader Place (SortedMap String Json) := fun p n =>
  match p.resolve n with
  | .error e => .error e
  | .ok (p, n) =>
    match p.view with
    | .mapping entries closed => readObject (readValue (depthBelow (level + 1))) entries closed n
    | .scalar => if p.isBlank then .ok (.empty, n) else .error p.mismatch
    | .list _ _ => .error .invalidType
    | .broken => .error .malformed

end PresetPipeline.Yaml
