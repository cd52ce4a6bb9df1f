import PresetPipeline.Text.Hexadecimal
import PresetPipeline.Yaml.Cursor

/-!
# Scalars in a YAML text

The text of a scalar, read from its first character on. A scalar that breaks the rules has none.

* `readPlain` — a scalar without quotes; it ends where its indentation or an indicator says so.
* `readQuoted` — a scalar in single or double quotes.
* `readBlock` — a literal or folded block.
-/

set_option autoImplicit false

namespace PresetPipeline.Yaml

/-- An indicator that ends a plain scalar inside brackets. -/
def isFlowIndicator (c : Char) : Bool :=
  c == ',' || c == '[' || c == ']' || c == '\x7b' || c == '\x7d'

/-- The part of a plain scalar before the next gap or indicator. A colon directly before an
indicator of flow collections is an error there. -/
def plainRun (inFlow : Bool) : List Char → Option (List Char)
  | [] => some []
  | x :: rest =>
    if isGap x then some []
    else if x == ':' then
      if inFlow && isHere (fun y => isFlowIndicator y || y == '?') rest.head? then none
      else if isGapOrEnd rest.head? then some []
      else (plainRun inFlow rest).map (x :: ·)
    else if inFlow && isFlowIndicator x then some []
    else (plainRun inFlow rest).map (x :: ·)

/-- What has been read of a plain scalar, and whether it ended after a line break. -/
structure PlainScalar where
  text : List Char
  brokeLine : Bool

/-- Whether a plain scalar must end here. -/
def plainStops (c : Cursor) : Bool := c.atMarker '-' || c.atMarker '.' || c.peek 0 == some '#'

def gapBreaksLine : Gap → Bool
  | .inline _ => false
  | .lines _ _ => true

/-- The rest of a plain scalar, of which `text` has been read, and then `gap`. -/
def readPlainFrom (inFlow : Bool) (indent : Nat) :
    Nat → List Char → Gap → Cursor → Option (PlainScalar × Cursor)
  | 0, _, _, _ => none
  | fuel + 1, text, gap, c =>
    let stop := some (⟨text, gapBreaksLine gap⟩, c)
    if plainStops c then stop
    else
      match plainRun inFlow c.rest with
      | none => none
      | some [] => stop
      | some run =>
        let text := text ++ gap.fold ++ run
        let c := c.skip run.length
        if isHere isGap (c.peek 0) then
          match readGap indent (c.rest.length + 1) (.inline []) c with
          | none => none
          | some (gap, c) =>
            if !inFlow && decide (c.column < indent) then some (⟨text, gapBreaksLine gap⟩, c)
            else readPlainFrom inFlow indent fuel text gap c
        else some (⟨text, false⟩, c)

/-- A plain scalar. Outside of brackets it lasts while lines are indented by `indent`. -/
def readPlain (inFlow : Bool) (indent : Nat) (c : Cursor) : Option (PlainScalar × Cursor) :=
  readPlainFrom inFlow indent (c.rest.length + 1) [] (.inline []) c

/-- The character of an escape of one letter in double quotes. -/
def escapeValue? (x : Char) : Option Char :=
  match x with
  | '0' => some '\x00'
  | 'a' => some '\x07'
  | 'b' => some '\x08'
  | 't' => some '\t'
  | '\t' => some '\t'
  | 'n' => some '\n'
  | 'v' => some '\x0b'
  | 'f' => some '\x0c'
  | 'r' => some '\r'
  | 'e' => some '\x1b'
  | ' ' => some ' '
  | '"' => some '"'
  | '/' => some '/'
  | '\\' => some '\\'
  | 'N' => some '\u0085'
  | '_' => some '\u00a0'
  | 'L' => some '\u2028'
  | 'P' => some '\u2029'
  | _ => none

/-- The number of hexadecimal digits after an escape letter. -/
def escapeWidth? (x : Char) : Option Nat :=
  match x with
  | 'x' => some 2
  | 'u' => some 4
  | 'U' => some 8
  | _ => none

/-- An escape: its character, and the number of characters it takes after the backslash. -/
def readEscape : List Char → Option (Char × Nat)
  | [] => none
  | x :: rest =>
    match escapeValue? x, escapeWidth? x with
    | some y, _ => some (y, 1)
    | none, some width =>
      match Text.numberIn? 16 (rest.take width) with
      | some n =>
        if width ≤ rest.length ∧ n < 0x110000 ∧ ¬(0xD800 ≤ n ∧ n < 0xE000) then
          some (Char.ofNat n, width + 1)
        else none
      | none => none
    | none, none => none

/-- What ends a run of characters in quotes. -/
inductive QuotedEnd where
  | gap
  | quote
  /-- A backslash before a line break. -/
  | escapedBreak
  deriving DecidableEq

/-- A run of characters in quotes: the characters, what ends them, and how many have been read. -/
def quotedRun (quote : Char) : Nat → List Char → List Char → Nat →
    Option (List Char × QuotedEnd × Nat)
  | 0, _, _, _ => none
  | fuel + 1, cs, acc, n =>
    match cs with
    | [] => some (acc.reverse, .gap, n)
    | x :: rest =>
      if isGap x then some (acc.reverse, .gap, n)
      else if x == quote then
        if quote == '\'' && rest.head? == some '\'' then
          quotedRun quote fuel (rest.drop 1) ('\'' :: acc) (n + 2)
        else some (acc.reverse, .quote, n)
      else if quote == '"' && x == '\\' then
        if isHere isBreak rest.head? then some (acc.reverse, .escapedBreak, n)
        else
          match readEscape rest with
          | none => none
          | some (y, width) => quotedRun quote fuel (rest.drop width) (y :: acc) (n + 1 + width)
      else quotedRun quote fuel rest (x :: acc) (n + 1)

/-- The rest of a quoted scalar, of which `text` has been read. -/
def readQuotedFrom (quote : Char) : Nat → List Char → Cursor → Option (List Char × Cursor)
  | 0, _, _ => none
  | fuel + 1, text, c =>
    if c.atMarker '-' || c.atMarker '.' || c.atEnd then none
    else
      match quotedRun quote (c.rest.length + 1) c.rest [] 0 with
      | none => none
      | some (run, ending, n) =>
        let c := c.skip n
        if ending = .quote then some (text ++ run, c.skip 1)
        else
          let gap : Gap × Cursor :=
            if ending = .gap then (.inline [], c) else (.lines [] [], (c.skip 1).skipBreak)
          match readGap 0 (gap.2.rest.length + 1) gap.1 gap.2 with
          | none => none
          | some (gap, c) => readQuotedFrom quote fuel (text ++ run ++ gap.fold) c

/-- A quoted scalar, from its first quote on. -/
def readQuoted (quote : Char) (c : Cursor) : Option (List Char × Cursor) :=
  readQuotedFrom quote (c.rest.length + 1) [] (c.skip 1)

/-- What becomes of the line breaks at the end of a block. -/
inductive Chomping where
  | strip
  | clip
  | keep
  deriving DecidableEq, Repr

/-- The head of a block: its chomping and its indentation, in either order. -/
def readBlockHead (c : Cursor) : Option (Chomping × Option Nat × Cursor) :=
  let chomping (c : Cursor) : Option (Chomping × Cursor) :=
    match c.peek 0 with
    | some '+' => some (.keep, c.skip 1)
    | some '-' => some (.strip, c.skip 1)
    | _ => none
  let width (c : Cursor) : Option (Option Nat × Cursor) :=
    match c.peek 0 with
    | some x =>
      if x == '0' then none
      else if x.isDigit then some (some (x.toNat - 48), c.skip 1)
      else some (none, c)
    | none => some (none, c)
  match chomping c with
  | some (ch, c) => (width c).map fun (w, c) => (ch, w, c)
  | none =>
    (width c).map fun (w, c) =>
      match w, chomping c with
      | some _, some (ch, c) => (ch, w, c)
      | _, _ => (.clip, w, c)

/-- The rest of the line after the head of a block: blanks and a comment. -/
def readHeadEnd (c : Cursor) : Option Cursor :=
  let c := c.skipWhile isBlank
  let c := if c.peek 0 == some '#' then c.readLine.2 else c
  if isBreakOrEnd (c.peek 0) then some c.skipBreak else none

/-- The indentation of a line up to column `indent`, or all of it. A tab inside is an error. -/
def skipIndent (indent : Option Nat) (c : Cursor) : Option Cursor :=
  let spaces := (c.rest.takeWhile (· == ' ')).length
  let c := c.skip (match indent with
    | some n => min spaces (n - c.column)
    | none => spaces)
  let short := match indent with
    | some n => decide (c.column < n)
    | none => true
  if short && c.peek 0 == some '\t' then none else some c

/-- The empty lines before a line with text, and the widest indentation among them all. -/
def readBlockBreaks (indent : Option Nat) : Nat → Nat → List Char → Cursor →
    Option (Nat × List Char × Cursor)
  | 0, _, _, _ => none
  | fuel + 1, widest, breaks, c =>
    match skipIndent indent c with
    | none => none
    | some c =>
      let widest := max widest c.column
      if isHere isBreak (c.peek 0) then
        let (text, c) := c.readBreak
        readBlockBreaks indent fuel widest (breaks ++ text) c
      else some (widest, breaks, c)

/-- The parts of a block that are waiting for the next line: the last line break, and the empty
lines after it. -/
structure BlockTail where
  last : List Char
  empties : List Char
  /-- The last line with text started with a blank. -/
  blankLine : Bool

/-- The line breaks in front of a further line. In a folded block, a single break between two lines
that do not start with a blank is a space. -/
def BlockTail.join (t : BlockTail) (folded blank : Bool) : List Char :=
  if folded && t.last.head? == some '\n' && !t.blankLine && !blank then
    if t.empties.isEmpty then [' '] else t.empties
  else t.last ++ t.empties

/-- The lines of a block at column `indent`. -/
def readBlockLines (folded : Bool) (indent : Nat) : Nat → List Char → BlockTail → Cursor →
    Option (List Char × BlockTail × Cursor)
  | 0, _, _, _ => none
  | fuel + 1, text, tail, c =>
    if c.column == indent && !c.atEnd then
      let blank := isHere isBlank (c.peek 0)
      let text := text ++ tail.join folded blank
      let (line, c) := c.readLine
      let (last, c) := if c.atEnd then ([], c) else c.readBreak
      match readBlockBreaks (some indent) (c.rest.length + 1) 0 [] c with
      | none => none
      | some (_, empties, c) => readBlockLines folded indent fuel (text ++ line) ⟨last, empties, blank⟩ c
    else some (text, tail, c)

/-- A block scalar inside a collection at column `parent`, which is -1 at the top. -/
def readBlock (folded : Bool) (parent : Int) (c : Cursor) : Option (List Char × Cursor) := do
  let (chomping, width, c) ← readBlockHead (c.skip 1)
  let c ← readHeadEnd c
  let declared := width.map fun w => if 0 ≤ parent then parent.toNat + w else w
  let (widest, empties, c) ← readBlockBreaks declared (c.rest.length + 1) 0 [] c
  let indent := declared.getD (max (max widest (parent + 1).toNat) 1)
  let (text, tail, c) ← readBlockLines folded indent (c.rest.length + 1) [] ⟨[], empties, false⟩ c
  some (match chomping with
    | .strip => text
    | .clip => text ++ tail.last
    | .keep => text ++ tail.last ++ tail.empties, c)

end PresetPipeline.Yaml
