import PresetPipeline.Yaml.Node
import PresetPipeline.Yaml.Token.Lexer

/-!
# Putting YAML tokens together

* `parseNode` — a node, with its anchor and its tag.
* `Tree.ofString` — the document of a text. Everything before the place where the text breaks is
  kept.
-/

set_option autoImplicit false

namespace PresetPipeline.Yaml

/-- The state of a parse. -/
structure Parse where
  /-- The tokens to come; nothing when the text broke. -/
  tokens : Option (List Token)
  /-- The expansions of tag handles. -/
  handles : List (String × Tag)
  /-- The number of each anchor name. -/
  names : List (String × Nat)
  /-- The anchors so far. -/
  count : Nat
  anchors : List Anchored

namespace Parse

def rest (p : Parse) (tokens : List Token) : Parse := { p with tokens := some tokens }

def fail (p : Parse) : Parse := { p with tokens := none }

/-- Notes an anchor. Its number is the count of names before it, also when its name is not new. -/
def name (p : Parse) (name : String) : Parse :=
  { p with
    names := (name, p.names.length) :: p.names.filter (·.1 != name)
    count := p.count + 1 }

/-- Notes the node of an anchor that was noted in `before`. -/
def bind (p : Parse) (before : Parse) (anchor : Option String) (node : Node) : Parse :=
  match anchor with
  | none => p
  | some _ => { p with anchors := ⟨before.names.length, before.count, node⟩ :: p.anchors }

end Parse

/-- A tag and an anchor, in either order. -/
structure NodeProperties where
  anchor : Option String
  tag : Option (Option String × Tag)

def readNodeProperties : List Token → NodeProperties × List Token
  | .anchor a :: .tag h s :: rest => (⟨some a, some (h, s)⟩, rest)
  | .anchor a :: rest => (⟨some a, none⟩, rest)
  | .tag h s :: .anchor a :: rest => (⟨some a, some (h, s)⟩, rest)
  | .tag h s :: rest => (⟨none, some (h, s)⟩, rest)
  | tokens => (⟨none, none⟩, tokens)

/-- The full form of a tag; none when its handle is unknown. -/
def Parse.expand (p : Parse) : Option (Option String × Tag) → Option (Option Tag)
  | none => some none
  | some (none, tag) => some (some tag)
  | some (some handle, suffix) => (p.handles.lookup handle).map fun e => some (e ++ suffix)

/-- The numbering of names takes its value before the anchor itself is noted. -/
def Parse.begin (p : Parse) (anchor : Option String) (tokens : List Token) : Parse :=
  match anchor with
  | none => p.rest tokens
  | some a => (p.name a).rest tokens

mutual

/-- A node. Inside a mapping a sequence need not be indented. -/
def parseNode : Nat → (block indentless : Bool) → Parse → Node × Parse
  | 0, _, _, p => (.broken, p.fail)
  | fuel + 1, block, indentless, p =>
    match p.tokens with
    | some (.alias a :: rest) =>
      match p.names.lookup a with
      | some n => (.alias n, p.rest rest)
      | none => (.broken, p.fail)
    | some tokens =>
      let (props, tokens) := readNodeProperties tokens
      match p.expand props.tag with
      | none => (.broken, p.fail)
      | some tag =>
        let anchor := props.anchor
        match tokens with
        | .blockEntry :: _ =>
          if indentless then
            let (items, closed, q) := parseIndentless fuel (p.begin anchor tokens)
            let node := Node.sequence tag items closed
            (node, q.bind p anchor node)
          else parseEmpty p props tag tokens
        | .scalar text style :: rest =>
          let node := Node.scalar tag text style
          (node, (p.begin anchor rest).bind p anchor node)
        | .flowSequenceStart :: rest =>
          let (items, closed, q) := parseFlowItems fuel true (p.begin anchor rest)
          let node := Node.sequence tag items closed
          (node, q.bind p anchor node)
        | .flowMappingStart :: rest =>
          let (entries, closed, q) := parseFlowEntries fuel true (p.begin anchor rest)
          let node := Node.mapping tag entries closed
          (node, q.bind p anchor node)
        | .blockSequenceStart :: rest =>
          if block then
            let (items, closed, q) := parseBlockItems fuel (p.begin anchor rest)
            let node := Node.sequence tag items closed
            (node, q.bind p anchor node)
          else parseEmpty p props tag tokens
        | .blockMappingStart :: rest =>
          if block then
            let (entries, closed, q) := parseBlockEntries fuel (p.begin anchor rest)
            let node := Node.mapping tag entries closed
            (node, q.bind p anchor node)
          else parseEmpty p props tag tokens
        | [] => (.broken, p.fail)
        | tokens => parseEmpty p props tag tokens
    | none => (.broken, p)
where
  /-- A tag or an anchor alone makes an empty scalar. -/
  parseEmpty (p : Parse) (props : NodeProperties) (tag : Option Tag) (tokens : List Token) :
      Node × Parse :=
    if props.anchor.isSome || props.tag.isSome then
      let node := Node.scalar tag "" .plain
      (node, (p.begin props.anchor tokens).bind p props.anchor node)
    else (.broken, p.fail)

/-- A node, or nothing where one of the tokens `ends` stands. -/
def parseNodeUnless (ends : List Token) : Nat → Bool → Bool → Parse → Node × Parse
  | 0, _, _, p => (.broken, p.fail)
  | fuel + 1, block, indentless, p =>
    match p.tokens with
    | some (t :: _) =>
      if ends.contains t then (.nothing, p) else parseNode fuel block indentless p
    | _ => (.broken, p.fail)

/-- The items of a block sequence, up to its end. -/
def parseBlockItems : Nat → Parse → List Node × Bool × Parse
  | 0, p => ([], false, p.fail)
  | fuel + 1, p =>
    match p.tokens with
    | some (.blockEntry :: rest) =>
      if rest.isEmpty then ([], false, p.fail)
      else
        let (node, q) := parseNodeUnless [.blockEntry, .blockEnd] fuel true false (p.rest rest)
        let (items, closed, q) := parseBlockItems fuel q
        (node :: items, closed, q)
    | some (.blockEnd :: rest) => ([], true, p.rest rest)
    | _ => ([], false, p.fail)

/-- The items of a sequence that is not indented; it ends with the last of them. -/
def parseIndentless : Nat → Parse → List Node × Bool × Parse
  | 0, p => ([], false, p.fail)
  | fuel + 1, p =>
    match p.tokens with
    | some (.blockEntry :: rest) =>
      if rest.isEmpty then ([], false, p.fail)
      else
        let (node, q) :=
          parseNodeUnless [.blockEntry, .key, .value, .blockEnd] fuel true false (p.rest rest)
        let (items, closed, q) := parseIndentless fuel q
        (node :: items, closed, q)
    | some (_ :: _) => ([], true, p)
    | _ => ([], false, p.fail)

/-- The entries of a block mapping, up to its end. -/
def parseBlockEntries : Nat → Parse → List (Node × Node) × Bool × Parse
  | 0, p => ([], false, p.fail)
  | fuel + 1, p =>
    match p.tokens with
    | some (.key :: rest) =>
      if rest.isEmpty then ([], false, p.fail)
      else
        let (key, q) := parseNodeUnless [.key, .value, .blockEnd] fuel true true (p.rest rest)
        let (value, q) := parseBlockValue fuel q
        let (entries, closed, q) := parseBlockEntries fuel q
        ((key, value) :: entries, closed, q)
    | some (.blockEnd :: rest) => ([], true, p.rest rest)
    | _ => ([], false, p.fail)

/-- The value of a key in a block mapping. -/
def parseBlockValue : Nat → Parse → Node × Parse
  | 0, p => (.broken, p.fail)
  | fuel + 1, p =>
    match p.tokens with
    | some (.value :: rest) =>
      parseNodeUnless [.key, .value, .blockEnd] fuel true true (p.rest rest)
    | some (_ :: _) => (.nothing, p)
    | _ => (.broken, p.fail)

/-- The items of a sequence in brackets, up to its end. -/
def parseFlowItems : Nat → Bool → Parse → List Node × Bool × Parse
  | 0, _, p => ([], false, p.fail)
  | fuel + 1, first, p =>
    match first, p.tokens with
    | _, some (.flowSequenceEnd :: rest) => ([], true, p.rest rest)
    | false, some (.flowEntry :: .flowSequenceEnd :: rest) => ([], true, p.rest rest)
    | true, some (_ :: _) => parseFlowItem fuel p
    | false, some (.flowEntry :: t :: rest) => parseFlowItem fuel (p.rest (t :: rest))
    | _, _ => ([], false, p.fail)

/-- An item of a sequence in brackets, and the items after it. A key makes a mapping of one
entry. -/
def parseFlowItem : Nat → Parse → List Node × Bool × Parse
  | 0, p => ([], false, p.fail)
  | fuel + 1, p =>
    let (node, q) := match p.tokens with
      | some (.key :: rest) => parseFlowPair fuel (p.rest rest)
      | _ => parseNode fuel false false p
    match node with
    | .broken => ([], false, q.fail)
    | node =>
      let (items, closed, q) := parseFlowItems fuel false q
      (node :: items, closed, q)

/-- A mapping of one entry in a sequence in brackets. Where no key is written, the token in its
place is dropped. -/
def parseFlowPair : Nat → Parse → Node × Parse
  | 0, p => (.broken, p.fail)
  | fuel + 1, p =>
    match p.tokens with
    | some (t :: rest) =>
      let (key, q) :=
        if [Token.value, .flowEntry, .flowSequenceEnd].contains t then (Node.nothing, p.rest rest)
        else parseNode fuel false false p
      let (value, q) := parseFlowValue [.flowEntry, .flowSequenceEnd] fuel q
      match key, q.tokens with
      | .broken, _ => (.mapping none [] false, q.fail)
      | key, some (_ :: _) => (.mapping none [(key, value)] true, q)
      | key, _ => (.mapping none [(key, value)] false, q.fail)
    | _ => (.mapping none [] false, p.fail)

/-- The value of a key inside brackets. -/
def parseFlowValue (ends : List Token) : Nat → Parse → Node × Parse
  | 0, p => (.broken, p.fail)
  | fuel + 1, p =>
    match p.tokens with
    | some (.value :: rest) => parseNodeUnless ends fuel false false (p.rest rest)
    | some (_ :: _) => (.nothing, p)
    | _ => (.broken, p.fail)

/-- The entries of a mapping in brackets, up to its end. -/
def parseFlowEntries : Nat → Bool → Parse → List (Node × Node) × Bool × Parse
  | 0, _, p => ([], false, p.fail)
  | fuel + 1, first, p =>
    match first, p.tokens with
    | _, some (.flowMappingEnd :: rest) => ([], true, p.rest rest)
    | false, some (.flowEntry :: .flowMappingEnd :: rest) => ([], true, p.rest rest)
    | true, some (_ :: _) => parseFlowMember fuel p
    | false, some (.flowEntry :: t :: rest) => parseFlowMember fuel (p.rest (t :: rest))
    | _, _ => ([], false, p.fail)

/-- An entry of a mapping in brackets, and the entries after it. A node without a colon is a key
without a value. -/
def parseFlowMember : Nat → Parse → List (Node × Node) × Bool × Parse
  | 0, p => ([], false, p.fail)
  | fuel + 1, p =>
    let (key, value, q) := match p.tokens with
      | some (.key :: rest) =>
        let (key, q) :=
          parseNodeUnless [.value, .flowEntry, .flowMappingEnd] fuel false false (p.rest rest)
        let (value, q) := parseFlowValue [.flowEntry, .flowMappingEnd] fuel q
        (key, value, q)
      | _ =>
        let (key, q) := parseNode fuel false false p
        match q.tokens with
        | some (_ :: _) => (key, Node.nothing, q)
        | _ => (key, Node.broken, q.fail)
    match key with
    | .broken => ([], false, q.fail)
    | key =>
      let (entries, closed, q) := parseFlowEntries fuel false q
      ((key, value) :: entries, closed, q)

end

/-- The handles that every document knows. -/
def defaultHandles : List (String × Tag) :=
  [("!", Tag.ofString "!"), ("!!", Tag.ofString "tag:yaml.org,2002:")]

/-- The directives in front of a document. Nothing is said twice, and only the versions 1.1 and 1.2
are known. -/
def readDirectives : List Token → Bool → List (String × Tag) →
    Option (List (String × Tag) × List Token)
  | .versionDirective major minor :: rest, versioned, handles =>
    if versioned || major != 1 || (minor != 1 && minor != 2) then none
    else readDirectives rest true handles
  | .tagDirective handle expansion :: rest, versioned, handles =>
    if (handles.lookup handle).isSome then none
    else readDirectives rest versioned ((handle, expansion) :: handles)
  | rest, _, handles => some (handles ++ defaultHandles, rest)

/-- Whether nothing but the end of the text follows a document. -/
def endsStream : List Token → Bool
  | .documentEnd :: rest => endsStream rest
  | [.streamEnd] => true
  | _ => false

def startsDocument : Token → Bool
  | .versionDirective _ _ | .tagDirective _ _ | .documentStart | .streamEnd => true
  | _ => false

/-- A document whose root is `root`, with what follows it. -/
def treeOf (root : Node × Parse) : Tree :=
  ⟨root.1, root.2.anchors,
    match root.2.tokens with
    | some tokens => endsStream tokens
    | none => false⟩

/-- The document of a text. A text without any document has an empty root. -/
def Tree.ofString (text : String) : Tree :=
  let tokens := tokensOf text
  let fuel := 4 * tokens.length + 16
  let start (handles : List (String × Tag)) (tokens : List Token) : Parse :=
    ⟨some tokens, handles, [], 0, []⟩
  let brokenTree : Tree := ⟨.broken, [], false⟩
  match tokens with
  | [] => brokenTree
  | .streamEnd :: _ => ⟨.nothing, [], true⟩
  | t :: _ =>
    if !startsDocument t then treeOf (parseNode fuel true false (start defaultHandles tokens))
    else
      match readDirectives tokens false [] with
      | some (handles, .documentStart :: next :: rest) =>
        let p := start handles (next :: rest)
        if startsDocument next || next = .documentEnd then treeOf (.nothing, p)
        else treeOf (parseNode fuel true false p)
      | _ => brokenTree

end PresetPipeline.Yaml
