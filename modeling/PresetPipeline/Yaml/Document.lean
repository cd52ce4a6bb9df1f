import PresetPipeline.Document.View
import PresetPipeline.Yaml.Node.Parser
import PresetPipeline.Yaml.Resolution

/-!
# YAML as a document format

Where the kind of a value is known, tags do not count. A place of a document is a node together with
the document, in which aliases are looked up.

* `Place` — a node in its document.
* `Plain.ofTagged` — what a scalar stands for when its tag says so.
* `consume` — reads a whole YAML text with a reader.
-/

set_option autoImplicit false

namespace PresetPipeline.Yaml

/-- A tag of the core types. -/
def coreTag (name : String) : Tag := Tag.ofString ("tag:yaml.org,2002:" ++ name)

/-- The value of a text that must be of some kind. -/
def Plain.ofOption {α : Type} (make : α → Plain) : Option α → Except Fault Plain
  | some a => .ok (make a)
  | none => .error .invalidValue

/-- Whether a tag starts with an exclamation mark: it is not one of the core types. -/
def Tag.isPrivate (tag : Tag) : Bool := tag.head? == some (some '!')

/-- What a scalar with a tag stands for. A private tag says nothing, and neither does a tag of no
known kind, which keeps the text as it is. -/
def Plain.ofTagged (tag : Tag) (text : String) (style : ScalarStyle) : Except Fault Plain :=
  if tag = coreTag "bool" then Plain.ofOption .flag (flag? text)
  else if tag = coreTag "int" then Plain.ofOption .integer (wideInteger? text)
  else if tag = coreTag "float" then Plain.ofOption .real (real? text)
  else if tag = coreTag "null" then
    Plain.ofOption (fun _ => .null) (if isNullWord text then some () else none)
  else if tag.isPrivate ∧ style = .plain then .ok (Plain.ofString text)
  else .ok .text

/-- A node in its document. -/
structure Place where
  tree : Tree
  node : Node

namespace Place

/-- Another node of the same document. -/
def sibling (p : Place) (node : Node) : Place := ⟨p.tree, node⟩

/-- The node behind an alias, which is followed only if that may still be done. -/
def resolve : Reader Place Place := fun p n =>
  match p.node, n with
  | .alias _, 0 => .error .malformed
  | .alias anchor, n + 1 => .ok (p.sibling ((p.tree.anchor? anchor).getD .broken), n)
  | _, n => .ok (p, n)

def view (p : Place) : View Place :=
  match p.node with
  | .scalar _ _ _ => .scalar
  | .sequence _ items closed => .list (items.map p.sibling) closed
  | .mapping _ entries closed =>
    .mapping (entries.map fun (k, v) => (p.sibling k, p.sibling v)) closed
  | .alias _ | .broken => .broken

/-- A scalar is first taken for what its tag says. -/
def mismatch (p : Place) : Fault :=
  match p.node with
  | .scalar (some tag) text style =>
    match Plain.ofTagged tag text style with
    | .error e => e
    | .ok _ => .invalidType
  | .alias _ | .broken => .malformed
  | _ => .invalidType

/-- The text of a scalar, with or without quotes. -/
def text (p : Place) : Except Fault String :=
  match p.node with
  | .scalar _ text _ => .ok text
  | _ => .error p.mismatch

/-- A value of the core type `name` that is written plainly, or in a literal block with its tag. -/
def typed {α : Type} (name : String) (ofText : String → Option α) (p : Place) : Except Fault α :=
  match p.node with
  | .scalar tag text style =>
    if style = .plain ∨ (style = .literal ∧ tag = some (coreTag name)) then
      match ofText text with
      | some a => .ok a
      | none => .error p.mismatch
    else .error p.mismatch
  | _ => .error p.mismatch

/-- Whether an optional value is written as nothing or as a null word. -/
def isUnset (p : Place) : Except Fault Bool :=
  match p.node with
  | .scalar tag text .plain =>
    match tag with
    | none => .ok (text.isEmpty || isNullWord text)
    | some tag =>
      if tag = coreTag "null" then if isNullWord text then .ok true else .error .invalidValue
      else .ok false
  | .alias _ | .broken => .error .malformed
  | _ => .ok false

/-- Whether nothing is written. -/
def isBlank (p : Place) : Bool :=
  match p.node with
  | .scalar _ text .plain => text.isEmpty
  | _ => false

end Place

instance : Document Place where
  resolve := Place.resolve
  view := Place.view
  mismatch := Place.mismatch
  text := Place.text
  word := Place.typed "int" word?
  real := Place.typed "float" real?
  flag := Place.typed "bool" flag?
  isUnset := Place.isUnset
  isBlank := Place.isBlank
  positional := false
  surplus := .invalidLength

/-- How many times an alias is followed while a document is read. -/
def Tree.maxJumps (t : Tree) : Nat := 100 * t.root.size

/-- Reads a whole text. The value comes first; a fault of the text, or a further document, comes
after it. -/
def consume {α : Type} (read : Reader Place α) (text : String) : Except Fault α :=
  let tree := Tree.ofString text
  match read ⟨tree, tree.root⟩ tree.maxJumps with
  | .error e => .error e
  | .ok (a, _) => atEnd tree.complete a

end PresetPipeline.Yaml
