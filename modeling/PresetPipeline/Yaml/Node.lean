import PresetPipeline.Yaml.Token

/-!
# YAML nodes

* `Node` — a YAML text as a tree. An alias is kept as a reference.
* `Tree` — a document: its root, and the nodes that aliases refer to.
-/

set_option autoImplicit false

namespace PresetPipeline.Yaml

inductive Node where
  | scalar (tag : Option Tag) (text : String) (style : ScalarStyle)
  /-- `closed` is false when the text breaks before the end of the collection. -/
  | sequence (tag : Option Tag) (items : List Node) (closed : Bool)
  | mapping (tag : Option Tag) (entries : List (Node × Node)) (closed : Bool)
  /-- Stands for an anchored node. -/
  | alias (anchor : Nat)
  /-- The text breaks here. -/
  | broken

/-- The node that stands where nothing is written. -/
def Node.nothing : Node := .scalar none "" .plain

mutual

/-- The number of scalars, aliases, and ends of collections. -/
def Node.size : Node → Nat
  | .scalar _ _ _ => 1
  | .sequence _ items closed => 1 + Node.sizeItems items + closed.toNat
  | .mapping _ entries closed => 1 + Node.sizeEntries entries + closed.toNat
  | .alias _ => 1
  | .broken => 0

def Node.sizeItems : List Node → Nat
  | [] => 0
  | n :: rest => n.size + Node.sizeItems rest

def Node.sizeEntries : List (Node × Node) → Nat
  | [] => 0
  | (k, v) :: rest => k.size + v.size + Node.sizeEntries rest

end

/-- A node with an anchor. -/
structure Anchored where
  anchor : Nat
  /-- The place of the anchor among all anchors of the document. -/
  place : Nat
  node : Node

/-- A document. `complete` is false when the text breaks, or goes on with another document. -/
structure Tree where
  root : Node
  anchors : List Anchored
  complete : Bool

/-- The node of an anchor: the last one that was given its number. -/
def Tree.anchor? (t : Tree) (anchor : Nat) : Option Node :=
  let found := t.anchors.filter (·.anchor == anchor)
  (found.foldl (fun best a =>
    match best with
    | none => some a
    | some b => some (if b.place < a.place then a else b)) (none : Option Anchored)).map (·.node)

end PresetPipeline.Yaml
