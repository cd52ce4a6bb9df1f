import PresetPipeline.Text.Hexadecimal
import PresetPipeline.Yaml.Cursor
import PresetPipeline.Yaml.Resolution
import PresetPipeline.Yaml.Token

/-!
# How a string is written in YAML

A string with line feeds becomes a literal block. Any other one is written plainly if it then reads
back as itself, else in single quotes, and in double quotes where these do not do.

* `mayBePlain`, `mayBeSingleQuoted`, `mayBeLiteral` — what the characters of a string allow.
* `styleOf` — the choice.
* `writtenAs` — the text of a string in a style.
-/

set_option autoImplicit false

namespace PresetPipeline.Yaml

/-- A character that need not be escaped. -/
def isPrintable (c : Char) : Bool :=
  let n := c.toNat
  n == 10 || (0x20 ≤ n && n ≤ 0x7E) ||
    (0xA0 ≤ n && n != 0xFEFF && n != 0xFFFE && n != 0xFFFF)

/-- Whether some two neighbours pass the two tests. -/
def hasNeighbours (p q : Char → Bool) : List Char → Bool
  | a :: b :: rest => (p a && q b) || hasNeighbours p q (b :: rest)
  | _ => false

def isSpace (c : Char) : Bool := c == ' '

/-- The characters that cannot start a plain scalar. -/
def indicators : List Char := "#,[]\x7b\x7d&*!|>'\"%@\x60".toList

/-- Whether the first characters have a meaning of their own. -/
def startsWithIndicator : List Char → Bool
  | [] => false
  | c :: rest =>
    let marker := (c :: rest).take 3
    indicators.contains c || marker == ['-', '-', '-'] || marker == ['.', '.', '.'] ||
      ((c == '?' || c == ':' || c == '-') && isGapOrEnd rest.head?)

/-- Whether a colon or a number sign after the first character has a meaning of its own. -/
def hasInnerIndicator (cs : List Char) : Bool :=
  hasNeighbours isGap (· == '#') cs || hasNeighbours (· == ':') isGap (cs.drop 1) ||
    (2 ≤ cs.length && cs.getLast? == some ':')

def mayBePlain (cs : List Char) : Bool :=
  cs.all isPrintable && !cs.any isBreak && cs.head? != some ' ' && cs.getLast? != some ' ' &&
    !startsWithIndicator cs && !hasInnerIndicator cs

def mayBeSingleQuoted (cs : List Char) : Bool :=
  cs.all isPrintable && !hasNeighbours isSpace isBreak cs && !hasNeighbours isBreak isSpace cs

def mayBeLiteral (cs : List Char) : Bool :=
  cs.all isPrintable && !hasNeighbours isSpace isBreak cs && cs.getLast? != some ' '

/-- Whether a plain scalar with this text is a string. -/
def readsAsText (s : String) : Bool := (Plain.ofString s).isText && !hasLeadingZero s.toList

/-- The style of a string. -/
def styleOf (s : String) : ScalarStyle :=
  let cs := s.toList
  if cs.contains '\n' then if mayBeLiteral cs then .literal else .doubleQuoted
  else if readsAsText s && mayBePlain cs then .plain
  else if mayBeSingleQuoted cs then .singleQuoted
  else .doubleQuoted

/-- An escape by number, of the least width that holds it. -/
def escapeNumber (n : Nat) : List Char :=
  let digits (width : Nat) := (Text.hexDigits width n).map Char.toUpper
  if n < 0x100 then 'x' :: digits 2 else if n < 0x10000 then 'u' :: digits 4 else 'U' :: digits 8

/-- What is written for a character after a backslash. -/
def escapeSequence (c : Char) : List Char :=
  match c.toNat with
  | 0x00 => ['0']
  | 0x07 => ['a']
  | 0x08 => ['b']
  | 0x09 => ['t']
  | 0x0A => ['n']
  | 0x0B => ['v']
  | 0x0C => ['f']
  | 0x0D => ['r']
  | 0x1B => ['e']
  | 0x22 => ['"']
  | 0x5C => ['\\']
  | 0x85 => ['N']
  | 0x2028 => ['L']
  | 0x2029 => ['P']
  | n => escapeNumber n

def doubleQuoted (cs : List Char) : List Char :=
  '"' :: cs.flatMap (fun c =>
    if !isPrintable c || isBreak c || c == '"' || c == '\\' then '\\' :: escapeSequence c else [c]) ++
    ['"']

def blanks (n : Nat) : List Char := List.replicate n ' '

/-- Characters in which each line after a line break starts at column `indent`. -/
def indented (indent : Nat) : Bool → List Char → List Char
  | _, [] => []
  | atStart, c :: rest =>
    if isBreak c then c :: indented indent true rest
    else if atStart then blanks indent ++ c :: indented indent false rest
    else c :: indented indent false rest

def endsWithBreak (cs : List Char) : Bool := isHere isBreak cs.getLast?

def singleQuoted (indent : Nat) (cs : List Char) : List Char :=
  let doubled := cs.flatMap fun c => if c == '\'' then ['\'', '\''] else [c]
  '\'' :: indented indent false doubled ++ (if endsWithBreak cs then blanks indent else []) ++ ['\'']

/-- How the line breaks at the end of a block are marked: one needs no mark. -/
def chompingMark (cs : List Char) : List Char :=
  if !endsWithBreak cs then ['-']
  else if cs.length = 1 || endsWithBreak cs.dropLast then ['+']
  else []

/-- A literal block. Its indentation is marked when its first line does not show it. -/
def literalBlock (indent : Nat) (cs : List Char) : List Char :=
  let widthMark := if isHere (fun c => isSpace c || isBreak c) cs.head? then ['2'] else []
  '|' :: widthMark ++ chompingMark cs ++ '\n' :: indented indent true cs

/-- The text of a string in a style, with further lines at column `indent`. -/
def writtenAs (style : ScalarStyle) (indent : Nat) (s : String) : String :=
  let cs := s.toList
  match style with
  | .plain | .folded => s
  | .singleQuoted => String.ofList (singleQuoted indent cs)
  | .doubleQuoted => String.ofList (doubleQuoted cs)
  | .literal => String.ofList (literalBlock indent cs)

/-- The end of the line on which a string ends. A literal block may have brought its own. -/
def lineEnd (style : ScalarStyle) (s : String) : String :=
  if style = .literal ∧ endsWithBreak s.toList then "" else "\n"

/-- Whether a string may be a key in front of a colon; a longer one needs a question mark. -/
def mayBeSimpleKey (s : String) : Bool := !s.toList.any isBreak && decide (s.utf8ByteSize ≤ 128)

end PresetPipeline.Yaml
