import PresetPipeline.Yaml.Token.Tag

/-!
# Cutting a YAML text into tokens

A key of a mapping is only known as one when its colon is reached. So each place where a key may
have begun is remembered, and the tokens that open the mapping and the key are put in front of it
later.

* `Lexer` — the tokens so far, the open indentations, and the places of possible keys.
* `Lexer.fetch` — reads the next token, with the tokens that its indentation asks for.
* `tokensOf` — the tokens of a text, up to the place where it breaks the rules.
-/

set_option autoImplicit false

namespace PresetPipeline.Yaml

/-- A place where a key of a mapping may have begun. -/
structure KeyPlace where
  possible : Bool
  /-- A block mapping has no choice but a key here. -/
  required : Bool
  /-- The number of tokens in front of the place. -/
  number : Nat
  index : Nat
  line : Nat
  column : Nat
  deriving DecidableEq, Repr

def KeyPlace.none : KeyPlace := ⟨false, false, 0, 0, 0, 0⟩

structure Lexer where
  cursor : Cursor
  /-- Whether the end that the cursor sees is the end of the text. -/
  whole : Bool
  /-- The tokens so far, last one first. -/
  tokens : List Token
  /-- The column of the innermost block collection, or -1. -/
  indent : Int
  /-- The columns of the collections around it. -/
  outer : List Int
  /-- The possible key at this level, and at each level of brackets around it. -/
  key : KeyPlace
  outerKeys : List KeyPlace
  keyAllowed : Bool
  ended : Bool

namespace Lexer

def start (text : List Char) (whole : Bool) : Lexer where
  cursor := .start text
  whole
  tokens := []
  indent := -1
  outer := []
  key := .none
  outerKeys := []
  keyAllowed := true
  ended := false

/-- Whether the place is inside brackets. -/
def inFlow (s : Lexer) : Bool := !s.outerKeys.isEmpty

def push (s : Lexer) (t : Token) : Lexer := { s with tokens := t :: s.tokens }

/-- Puts a token behind the first `number` tokens. -/
def insertToken (s : Lexer) (number : Nat) (t : Token) : Lexer :=
  let later := s.tokens.length - number
  { s with tokens := s.tokens.take later ++ t :: s.tokens.drop later }

def goTo (s : Lexer) (c : Cursor) : Lexer := { s with cursor := c }

def allowKey (s : Lexer) (allowed : Bool) : Lexer := { s with keyAllowed := allowed }

/-- A key must end on its line and within 1024 bytes. A required key that does not is an error. -/
def freshKey? (c : Cursor) (k : KeyPlace) : Option KeyPlace :=
  if k.possible && (decide (k.line < c.line) || decide (k.index + 1024 < c.index)) then
    if k.required then Option.none else some { k with possible := false }
  else some k

/-- Forgets the keys that have not ended in time. -/
def dropStaleKeys (s : Lexer) : Option Lexer := do
  let key ← freshKey? s.cursor s.key
  let outerKeys ← s.outerKeys.mapM (freshKey? s.cursor)
  some { s with key, outerKeys }

/-- Forgets the key of this level. -/
def dropKey (s : Lexer) : Option Lexer :=
  if s.key.possible && s.key.required then Option.none
  else some { s with key := { s.key with possible := false } }

/-- Remembers that a key may begin here. -/
def saveKey (s : Lexer) : Option Lexer :=
  if s.keyAllowed then
    s.dropKey.map fun s =>
      let c := s.cursor
      { s with key := ⟨true, !s.inFlow && s.indent == Int.ofNat c.column, s.tokens.length, c.index,
        c.line, c.column⟩ }
  else some s

/-- Opens a block collection at a column that is further in. The token goes behind the first
`number` tokens, or last. -/
def openBlock (s : Lexer) (column : Nat) (number : Option Nat) (t : Token) : Lexer :=
  if s.inFlow || Int.ofNat column ≤ s.indent then s
  else
    let s := { s with indent := Int.ofNat column, outer := s.indent :: s.outer }
    match number with
    | some n => s.insertToken n t
    | Option.none => s.push t

/-- Closes the block collections that are further in than a column. -/
def closeBlocksTo (column : Int) : List Int → Int → List Token → List Int × Int × List Token
  | [], indent, tokens => if column < indent then ([], -1, .blockEnd :: tokens) else ([], indent, tokens)
  | next :: outer, indent, tokens =>
    if column < indent then closeBlocksTo column outer next (.blockEnd :: tokens)
    else (next :: outer, indent, tokens)

def closeBlocks (s : Lexer) (column : Int) : Lexer :=
  if s.inFlow then s
  else
    let (outer, indent, tokens) := closeBlocksTo column s.outer s.indent s.tokens
    { s with outer, indent, tokens }

/-- Goes over spaces, comments and line breaks to the next token. A line may start with a byte order
mark. A tab counts as a space where no key can begin. A line break allows a key to begin. -/
def skipToToken : Nat → Lexer → Lexer
  | 0, s => s
  | fuel + 1, s =>
    let c := if s.cursor.column == 0 && s.cursor.peek 0 == some '\ufeff' then s.cursor.skip 1
      else s.cursor
    let tabs := s.inFlow || !s.keyAllowed
    let c := c.skipWhile fun x => x == ' ' || (tabs && x == '\t')
    let c := if c.peek 0 == some '#' then c.readLine.2 else c
    if isHere isBreak (c.peek 0) then
      let s := s.goTo c.readBreak.2
      skipToToken fuel (if s.inFlow then s else s.allowKey true)
    else s.goTo c

/-- The end of the text ends its last line too. -/
def fetchStreamEnd (s : Lexer) : Option Lexer :=
  (s.closeBlocks (-1)).dropKey.map fun s =>
    let s := s.goTo { s.cursor with line := s.cursor.line + 1, column := 0 }
    { (s.allowKey false).push .streamEnd with ended := true }

def fetchDirective (s : Lexer) : Option Lexer := do
  let s ← (s.closeBlocks (-1)).dropKey
  let (token, c) ← readDirective s.cursor
  some (((s.allowKey false).goTo c).push token)

def fetchMarker (s : Lexer) (t : Token) : Option Lexer :=
  (s.closeBlocks (-1)).dropKey.map fun s => ((s.allowKey false).goTo (s.cursor.skip 3)).push t

def fetchFlowStart (s : Lexer) (t : Token) : Option Lexer :=
  s.saveKey.map fun s =>
    let s := { s with key := .none, outerKeys := s.key :: s.outerKeys }
    ((s.allowKey true).goTo (s.cursor.skip 1)).push t

def fetchFlowEnd (s : Lexer) (t : Token) : Option Lexer :=
  s.dropKey.map fun s =>
    let s := match s.outerKeys with
      | [] => s
      | key :: outerKeys => { s with key, outerKeys }
    ((s.allowKey false).goTo (s.cursor.skip 1)).push t

def fetchFlowEntry (s : Lexer) : Option Lexer :=
  s.dropKey.map fun s => ((s.allowKey true).goTo (s.cursor.skip 1)).push .flowEntry

/-- Opens a block collection where one may begin. -/
def openBlockHere (s : Lexer) (t : Token) : Option Lexer :=
  if s.inFlow then some s
  else if s.keyAllowed then some (s.openBlock s.cursor.column Option.none t)
  else Option.none

def fetchBlockEntry (s : Lexer) : Option Lexer := do
  let s ← s.openBlockHere .blockSequenceStart
  let s ← s.dropKey
  some (((s.allowKey true).goTo (s.cursor.skip 1)).push .blockEntry)

def fetchKey (s : Lexer) : Option Lexer := do
  let s ← s.openBlockHere .blockMappingStart
  let s ← s.dropKey
  some (((s.allowKey (!s.inFlow)).goTo (s.cursor.skip 1)).push .key)

def fetchValue (s : Lexer) : Option Lexer :=
  if s.key.possible then
    let k := s.key
    let s := (s.insertToken k.number .key).openBlock k.column (some k.number) .blockMappingStart
    let s := { s with key := { k with possible := false } }
    some (((s.allowKey false).goTo (s.cursor.skip 1)).push .value)
  else
    (s.openBlockHere .blockMappingStart).map fun s =>
      ((s.allowKey (!s.inFlow)).goTo (s.cursor.skip 1)).push .value

def fetchNamed (s : Lexer) (make : String → Token) : Option Lexer := do
  let s ← s.saveKey
  let (name, c) ← readName s.cursor
  some (((s.allowKey false).goTo c).push (make name))

def fetchTag (s : Lexer) : Option Lexer := do
  let s ← s.saveKey
  let (handle, suffix, c) ← readTag s.inFlow s.cursor
  some (((s.allowKey false).goTo c).push (.tag handle suffix))

def fetchBlock (s : Lexer) (style : ScalarStyle) : Option Lexer := do
  let s ← s.dropKey
  let (text, c) ← readBlock (style == .folded) s.indent s.cursor
  some (((s.allowKey true).goTo c).push (.scalar (String.ofList text) style))

def fetchQuoted (s : Lexer) (quote : Char) (style : ScalarStyle) : Option Lexer := do
  let s ← s.saveKey
  let (text, c) ← readQuoted quote s.cursor
  some (((s.allowKey false).goTo c).push (.scalar (String.ofList text) style))

def fetchPlain (s : Lexer) : Option Lexer := do
  let s ← s.saveKey
  let (scalar, c) ← readPlain s.inFlow (s.indent + 1).toNat s.cursor
  some (((s.allowKey scalar.brokeLine).goTo c).push (.scalar (String.ofList scalar.text) .plain))

/-- Whether a plain scalar may begin with `x`, with `next` behind it. -/
def startsPlain (inFlow : Bool) (x : Char) (next : Option Char) : Bool :=
  if x == '-' then !isHere isBlank next
  else if x == '?' || x == ':' then !inFlow && !isGapOrEnd next
  else !(isGap x || ",[]\x7b\x7d#&*!|>'\"%@\x60".toList.contains x)

/-- Reads the token that begins at the cursor. -/
def fetchHere (s : Lexer) : Option Lexer :=
  match s.cursor.peek 0 with
  | Option.none => s.fetchStreamEnd
  | some x =>
    let next := s.cursor.peek 1
    if s.cursor.column == 0 && x == '%' then s.fetchDirective
    else if s.cursor.atMarker '-' then s.fetchMarker .documentStart
    else if s.cursor.atMarker '.' then s.fetchMarker .documentEnd
    else if x == '[' then s.fetchFlowStart .flowSequenceStart
    else if x == '\x7b' then s.fetchFlowStart .flowMappingStart
    else if x == ']' then s.fetchFlowEnd .flowSequenceEnd
    else if x == '\x7d' then s.fetchFlowEnd .flowMappingEnd
    else if x == ',' then s.fetchFlowEntry
    else if x == '-' && isGapOrEnd next then s.fetchBlockEntry
    else if x == '?' && (s.inFlow || isGapOrEnd next) then s.fetchKey
    else if x == ':' && (s.inFlow || isGapOrEnd next) then s.fetchValue
    else if x == '*' then s.fetchNamed .alias
    else if x == '&' then s.fetchNamed .anchor
    else if x == '!' then s.fetchTag
    else if x == '|' && !s.inFlow then s.fetchBlock .literal
    else if x == '>' && !s.inFlow then s.fetchBlock .folded
    else if x == '\'' then s.fetchQuoted '\'' .singleQuoted
    else if x == '"' then s.fetchQuoted '"' .doubleQuoted
    else if startsPlain s.inFlow x next then s.fetchPlain
    else Option.none

/-- Fails where fewer than `n` characters can be read, and the text goes on. -/
def require (s : Lexer) (n : Nat) : Option Lexer :=
  if s.whole || s.cursor.rest.length ≥ n then some s else Option.none

/-- Reads the next token, and forgets the keys that it has put out of reach. The longest mark of a
token and the gap behind it take four characters; the end of a token shows on the next one. -/
def fetch (s : Lexer) : Option Lexer := do
  let s := skipToToken (s.cursor.rest.length + 1) s
  let s ← s.dropStaleKeys
  let s ← (s.closeBlocks (Int.ofNat s.cursor.column)).require 4
  let s ← s.fetchHere
  let s ← s.require 1
  s.dropStaleKeys

/-- The tokens in front of the first place where a key may have begun. -/
def settledTokens (s : Lexer) : List Token :=
  let places := ((s.key :: s.outerKeys).filter (·.possible)).map (·.number)
  s.tokens.reverse.take (places.foldl min s.tokens.length)

/-- Reads tokens to the end of the text. Where the text breaks the rules, the tokens that can no
longer become part of a key remain. -/
def run : Nat → Lexer → List Token
  | 0, s => s.settledTokens
  | fuel + 1, s =>
    if s.ended then s.tokens.reverse
    else
      match s.fetch with
      | some s => run fuel s
      | Option.none => s.settledTokens

end Lexer

/-- The tokens of a text. Only a text that keeps the rules has an end token. -/
def tokensOf (text : String) : List Token :=
  let (cs, whole) := readable blockSize [] text.toList
  Lexer.run (cs.length + 2) (.start cs whole)

end PresetPipeline.Yaml
