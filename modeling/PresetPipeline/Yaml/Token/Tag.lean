import PresetPipeline.Decimal.Literal
import PresetPipeline.Yaml.Token
import PresetPipeline.Yaml.Token.Scalar

/-!
# Tags, anchors and directives in a YAML text

* `readName` — the name of an anchor or of an alias.
* `readTag` — a tag: its handle and its suffix.
* `readDirective` — a line that starts with a percent sign.
-/

set_option autoImplicit false

namespace PresetPipeline.Yaml

/-- A character that may follow a name directly. -/
def isAfterName (x : Char) : Bool :=
  isGap x || x == '?' || x == ':' || x == ',' || x == ']' || x == '\x7d' || x == '%' || x == '@' ||
    x == '\x60'

/-- A name after its sign. -/
def readName (c : Cursor) : Option (String × Cursor) :=
  let (name, c) := (c.skip 1).span isWordChar
  if name.isEmpty || isHere (fun x => !isAfterName x) (c.peek 0) then none
  else some (String.ofList name, c)

/-- A character of a tag. Commas and square brackets are among them between angle brackets. -/
def isUriChar (verbatim : Bool) (x : Char) : Bool :=
  isWordChar x || ";/?:@&=+$.%!~*'()".toList.contains x || (verbatim && ",[]".toList.contains x)

/-- A byte that is written as a percent sign and two digits. -/
def readByte : List Char → Option Nat
  | '%' :: a :: b :: _ =>
    match Text.hexValue? a, Text.hexValue? b with
    | some a, some b => some (16 * a + b)
    | _, _ => none
  | _ => none

/-- The number of bytes of a character, and the bits that its first byte holds. -/
def leadByte? (b : Nat) : Option (Nat × Nat) :=
  if b < 0x80 then some (1, b)
  else if 0xC0 ≤ b ∧ b < 0xE0 then some (2, b - 0xC0)
  else if 0xE0 ≤ b ∧ b < 0xF0 then some (3, b - 0xE0)
  else if 0xF0 ≤ b ∧ b < 0xF8 then some (4, b - 0xF0)
  else none

/-- The bits of the bytes after the first. -/
def readTrailBytes : Nat → Nat → List Char → Option Nat
  | 0, value, _ => some value
  | n + 1, value, cs =>
    match readByte cs with
    | some b =>
      if 0x80 ≤ b ∧ b < 0xC0 then readTrailBytes n (64 * value + (b - 0x80)) (cs.drop 3) else none
    | none => none

/-- The character of a number that takes `width` bytes, and no fewer. -/
def charOfWidth? (width n : Nat) : Option Char :=
  if h : n.isValidChar then
    let c := Char.ofNatAux n h
    if c.utf8Size = width then some c else none
  else none

/-- A character that is written by its bytes, and the number of bytes. The bytes have the right
pattern, but need not encode a character. -/
def readBytes (cs : List Char) : Option (Option Char × Nat) := do
  let first ← readByte cs
  let (width, bits) ← leadByte? first
  let value ← readTrailBytes (width - 1) bits (cs.drop 3)
  some (charOfWidth? width value, width)

/-- The characters of a tag up to the first that is none. -/
def readUri (verbatim : Bool) : Nat → Tag → Cursor → Option (Tag × Cursor)
  | 0, _, _ => none
  | fuel + 1, acc, c =>
    match c.peek 0 with
    | some x =>
      if x == '%' then
        match readBytes c.rest with
        | none => none
        | some (y, width) => readUri verbatim fuel (y :: acc) (c.skip (3 * width))
      else if isUriChar verbatim x then readUri verbatim fuel (some x :: acc) (c.skip 1)
      else some (acc.reverse, c)
    | none => some (acc.reverse, c)

/-- A tag ends in front of a zero byte. -/
def Tag.cut (tag : Tag) : Tag := tag.takeWhile (· != some '\x00')

/-- At least one character of a tag. -/
def readUri1 (verbatim : Bool) (c : Cursor) : Option (Tag × Cursor) :=
  match readUri verbatim (c.rest.length + 1) [] c with
  | none | some ([], _) => none
  | some (uri, c) => some (Tag.cut uri, c)

/-- A handle: a name between exclamation marks, or what there is of one. -/
def readHandle (c : Cursor) : Option (List Char × Cursor) :=
  if c.peek 0 != some '!' then none
  else
    let (name, c) := (c.skip 1).span isWordChar
    if c.peek 0 == some '!' then some ('!' :: name ++ ['!'], c.skip 1) else some ('!' :: name, c)

/-- A tag. Between angle brackets it is taken as it is; a handle that is not closed belongs to the
suffix, and without any suffix it is a tag of its own. -/
def readTag (inFlow : Bool) (c : Cursor) : Option (Option String × Tag × Cursor) := do
  let (handle, suffix, c) ←
    if c.peek 1 == some '<' then do
      let (suffix, c) ← readUri1 true (c.skip 2)
      if c.peek 0 == some '>' then some (none, suffix, c.skip 1) else none
    else do
      let (handle, c) ← readHandle c
      if 2 ≤ handle.length ∧ handle.getLast? = some '!' then do
        let (suffix, c) ← readUri1 false c
        some (some (String.ofList handle), suffix, c)
      else do
        let (more, c) ← readUri false (c.rest.length + 1) [] c
        let suffix := Tag.cut ((handle.drop 1).map some ++ more)
        some (if suffix.isEmpty then (none, Tag.ofString "!", c) else (some "!", suffix, c))
  if (inFlow && c.peek 0 == some ',') || isGapOrEnd (c.peek 0) then some (handle, suffix, c) else none

/-- A number of a version, of at most nine digits. -/
def readVersionNumber (c : Cursor) : Option (Nat × Cursor) :=
  let (digits, c) := c.span Char.isDigit
  if digits.isEmpty || 9 < digits.length then none
  else some (Decimal.digitsValue digits, c)

def readVersion (c : Cursor) : Option (Token × Cursor) := do
  let (major, c) ← readVersionNumber (c.skipWhile isBlank)
  if c.peek 0 == some '.' then do
    let (minor, c) ← readVersionNumber (c.skip 1)
    some (.versionDirective major minor, c)
  else none

def readTagDirective (c : Cursor) : Option (Token × Cursor) := do
  let (handle, c) ← readHandle (c.skipWhile isBlank)
  if handle != ['!'] && handle.getLast? != some '!' then none
  else if !isHere isBlank (c.peek 0) then none
  else do
    let (expansion, c) ← readUri1 true (c.skipWhile isBlank)
    if isGapOrEnd (c.peek 0) then some (.tagDirective (String.ofList handle) expansion, c) else none

/-- A directive, from its percent sign to the end of its line. -/
def readDirective (c : Cursor) : Option (Token × Cursor) := do
  let (name, c) := (c.skip 1).span isWordChar
  if !isGapOrEnd (c.peek 0) then none
  else do
    let (token, c) ←
      if name == "YAML".toList then readVersion c
      else if name == "TAG".toList then readTagDirective c
      else none
    let c ← readHeadEnd c
    some (token, c)

end PresetPipeline.Yaml
