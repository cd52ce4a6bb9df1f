/-!
# Places in a YAML text

* `isBreak`, `isBlank`, `isWordChar` — the classes of characters that the syntax tells apart.
* `readable` — the part of a text that can be read.
* `Cursor` — a place in a text, with its line and column.
* `Cursor.readBreak` — a line break, in the form in which it counts.
* `readGap` — the blanks and line breaks between two parts of a scalar.
-/

set_option autoImplicit false

namespace PresetPipeline.Yaml

/-- A character that ends a line. -/
def isBreak (c : Char) : Bool :=
  c == '\n' || c == '\r' || c == '\u0085' || c == '\u2028' || c == '\u2029'

/-- A space or a tab. -/
def isBlank (c : Char) : Bool := c == ' ' || c == '\t'

def isGap (c : Char) : Bool := isBlank c || isBreak c

/-- A character of names. -/
def isWordChar (c : Char) : Bool := c.isAlphanum || c == '_' || c == '-'

/-- A character that may stand in a text at all. -/
def isAllowed (c : Char) : Bool :=
  let n := c.toNat
  n == 9 || n == 10 || n == 13 || (0x20 ≤ n && n ≤ 0x7E) || n == 0x85 ||
    (0xA0 ≤ n && n ≤ 0xD7FF) || (0xE000 ≤ n && n ≤ 0xFFFD) || 0x10000 ≤ n

/-- A text is read in blocks of at most this many bytes. -/
def blockSize : Nat := 16384

/-- The characters that can be read, and whether they are the whole text. A character that may not
stand in a text makes its block unreadable, and ends the text. `block` holds what has been read of a
block, last character first, and `room` bytes are left in it. -/
def readable : (room : Nat) → (block : List Char) → List Char → List Char × Bool
  | _, block, [] => (block.reverse, true)
  | room, block, c :: rest =>
    if c.utf8Size ≤ room then
      if isAllowed c then readable (room - c.utf8Size) (c :: block) rest else ([], false)
    else
      let (more, whole) :=
        if isAllowed c then readable (blockSize - c.utf8Size) [c] rest else ([], false)
      (block.reverse ++ more, whole)

/-- Whether a blank, a line break or the end of the text is here. -/
def isGapOrEnd : Option Char → Bool
  | none => true
  | some c => isGap c

/-- Whether a line break or the end of the text is here. -/
def isBreakOrEnd : Option Char → Bool
  | none => true
  | some c => isBreak c

/-- Whether a character is here that passes the test. -/
def isHere (p : Char → Bool) : Option Char → Bool
  | none => false
  | some c => p c

structure Cursor where
  rest : List Char
  /-- The number of bytes in front of the place. -/
  index : Nat
  line : Nat
  column : Nat
  deriving DecidableEq, Repr

namespace Cursor

def start (text : List Char) : Cursor := ⟨text, 0, 0, 0⟩

/-- The character `n` places further on. -/
def peek (c : Cursor) (n : Nat) : Option Char := c.rest[n]?

def atEnd (c : Cursor) : Bool := c.rest.isEmpty

/-- The number of bytes of characters. -/
def byteCount (cs : List Char) : Nat := cs.foldl (fun n c => n + c.utf8Size) 0

/-- Goes on by `n` characters of the line. -/
def skip (c : Cursor) (n : Nat) : Cursor :=
  ⟨c.rest.drop n, c.index + byteCount (c.rest.take n), c.line, c.column + n⟩

/-- The characters up to the first that fails the test, none of which is a line break. -/
def span (c : Cursor) (p : Char → Bool) : List Char × Cursor :=
  let taken := c.rest.takeWhile p
  (taken, c.skip taken.length)

def skipWhile (c : Cursor) (p : Char → Bool) : Cursor := (c.span p).2

/-- The rest of the line. -/
def readLine (c : Cursor) : List Char × Cursor := c.span fun x => !isBreak x

/-- A line break: a line feed for most forms, and itself for the two Unicode separators. -/
def readBreak (c : Cursor) : List Char × Cursor :=
  match c.rest with
  | '\r' :: '\n' :: rest => (['\n'], ⟨rest, c.index + 2, c.line + 1, 0⟩)
  | x :: rest =>
    (if x == '\u2028' || x == '\u2029' then [x] else ['\n'],
      ⟨rest, c.index + x.utf8Size, c.line + 1, 0⟩)
  | [] => ([], c)

/-- Goes over a line break, if one is here. -/
def skipBreak (c : Cursor) : Cursor := if isHere isBreak (c.peek 0) then c.readBreak.2 else c

/-- Whether a document marker made of three characters `x` starts the line. -/
def atMarker (c : Cursor) (x : Char) : Bool :=
  c.column == 0 && c.rest.take 3 == [x, x, x] && isGapOrEnd (c.peek 3)

end Cursor

/-- What separates two parts of a scalar: blanks within a line, or line breaks, of which the first
is kept apart. -/
inductive Gap where
  | inline (blanks : List Char)
  | lines (first others : List Char)
  deriving DecidableEq, Repr

/-- The text that a gap stands for: a single line break is folded into a space, and any other one is
dropped in front of further breaks. -/
def Gap.fold : Gap → List Char
  | .inline blanks => blanks
  | .lines first others =>
    if first.head? = some '\n' then if others.isEmpty then [' '] else others else first ++ others

/-- Reads blanks and line breaks. After a line break, a tab before column `indent` is an error. -/
def readGap (indent : Nat) : Nat → Gap → Cursor → Option (Gap × Cursor)
  | 0, _, _ => none
  | fuel + 1, gap, c =>
    match c.peek 0 with
    | none => some (gap, c)
    | some x =>
      if isBlank x then
        match gap with
        | .inline blanks => readGap indent fuel (.inline (blanks ++ [x])) (c.skip 1)
        | .lines _ _ =>
          if x == '\t' && decide (c.column < indent) then none else readGap indent fuel gap (c.skip 1)
      else if isBreak x then
        let (text, c) := c.readBreak
        match gap with
        | .inline _ => readGap indent fuel (.lines text []) c
        | .lines first others => readGap indent fuel (.lines first (others ++ text)) c
      else some (gap, c)

end PresetPipeline.Yaml
