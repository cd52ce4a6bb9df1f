import PresetPipeline.Json.Literal
import PresetPipeline.Text.Hexadecimal

/-!
# Reading JSON text

A text is read into a tree that keeps what a consumer may still object to: number literals that are
too large, strings with half of a surrogate pair, and the place where the text stops being JSON.
Everything before that place can be consumed first.

* `JsonSource` — the tree.
* `JsonSource.ofString` — reads a whole text.
-/

set_option autoImplicit false

namespace PresetPipeline

/-- A JSON text as a tree. -/
inductive JsonSource where
  | null
  | bool (value : Bool)
  | number (literal : NumberLiteral)
  /-- The characters of a string; nothing when it holds half of a surrogate pair. -/
  | string (value : Option String)
  /-- `closed` is false when the text breaks before the closing bracket. -/
  | array (items : List JsonSource) (closed : Bool)
  | object (members : List (Option String × JsonSource)) (closed : Bool)
  /-- The text breaks here. -/
  | broken

namespace JsonSource

/-- What is read, and the text after it; nothing when the text broke. -/
abbrev Step (α : Type) := α × Option (List Char)

def isSpace (c : Char) : Bool := c == ' ' || c == '\n' || c == '\t' || c == '\r'

def skipSpace (cs : List Char) : List Char := cs.dropWhile isSpace

/-- Four hexadecimal digits. -/
def hexWord? : List Char → Option (Nat × List Char)
  | a :: b :: c :: d :: rest =>
    match Text.hexValue? a, Text.hexValue? b, Text.hexValue? c, Text.hexValue? d with
    | some a, some b, some c, some d => some (((a * 16 + b) * 16 + c) * 16 + d, rest)
    | _, _, _, _ => none
  | _ => none

/-- The character of an escape of one letter. -/
def escapeValue? (c : Char) : Option Char :=
  match c with
  | '"' => some '"'
  | '\\' => some '\\'
  | '/' => some '/'
  | 'b' => some '\x08'
  | 'f' => some '\x0c'
  | 'n' => some '\n'
  | 'r' => some '\r'
  | 't' => some '\t'
  | _ => none

def isHighSurrogate (n : Nat) : Bool := 0xD800 ≤ n && n < 0xDC00

def isLowSurrogate (n : Nat) : Bool := 0xDC00 ≤ n && n < 0xE000

/-- The rest of a string after its opening quote. `whole` is false once half of a surrogate pair
has been read. -/
def readString : Nat → List Char → Bool → List Char → Option (Option String × List Char)
  | 0, _, _, _ => none
  | fuel + 1, acc, whole, cs =>
    match cs with
    | [] => none
    | '"' :: rest => some (if whole then some (String.ofList acc.reverse) else none, rest)
    | '\\' :: 'u' :: rest =>
      match hexWord? rest with
      | none => none
      | some (n, rest) =>
        if isHighSurrogate n then
          match rest with
          | '\\' :: 'u' :: rest' =>
            match hexWord? rest' with
            | none => none
            | some (m, rest') =>
              if isLowSurrogate m then
                readString fuel (Char.ofNat (0x10000 + (n - 0xD800) * 0x400 + (m - 0xDC00)) :: acc)
                  whole rest'
              else readString fuel acc false rest
          | _ => readString fuel acc false rest
        else if isLowSurrogate n then readString fuel acc false rest
        else readString fuel (Char.ofNat n :: acc) whole rest
    | '\\' :: c :: rest =>
      match escapeValue? c with
      | none => none
      | some c => readString fuel (c :: acc) whole rest
    | c :: rest => if c.toNat < 32 then none else readString fuel (c :: acc) whole rest

/-- The digits at the start of a text. -/
def readDigits (cs : List Char) : List Char × List Char :=
  (cs.takeWhile Char.isDigit, cs.dropWhile Char.isDigit)

/-- At least one digit. -/
def readDigits1 (cs : List Char) : Option (List Char × List Char) :=
  let (digits, rest) := readDigits cs
  if digits.isEmpty then none else some (digits, rest)

/-- The digits before the point: a single zero, or digits that do not start with zero. -/
def readWhole (cs : List Char) : Option (List Char × List Char) :=
  match readDigits1 cs with
  | some ('0' :: _ :: _, _) => none
  | result => result

def readFraction : List Char → Option (List Char × List Char)
  | '.' :: rest => readDigits1 rest
  | cs => some ([], cs)

def readExponent : List Char → Option (Option (Bool × List Char) × List Char)
  | c :: rest =>
    if c = 'e' ∨ c = 'E' then
      let (negative, rest) := Decimal.splitSign rest
      (readDigits1 rest).map fun (digits, rest) => (some (negative, digits), rest)
    else some (none, c :: rest)
  | [] => some (none, [])

def readNumber (cs : List Char) : Option (NumberLiteral × List Char) := do
  let (negative, cs) := match cs with
    | '-' :: rest => (true, rest)
    | _ => (false, cs)
  let (whole, cs) ← readWhole cs
  let (fraction, cs) ← readFraction cs
  let (exponent, cs) ← readExponent cs
  some (⟨negative, whole, fraction, exponent⟩, cs)

/-- The text after a fixed word. -/
def afterWord? (word : String) (cs : List Char) : Option (List Char) :=
  if word.toList.isPrefixOf cs then some (cs.drop word.length) else none

/-- A value without parts, whose text starts with `c`. -/
def readScalar (cs : List Char) : Step JsonSource :=
  match cs with
  | [] => (.broken, none)
  | 'n' :: _ => word "null" .null
  | 't' :: _ => word "true" (.bool true)
  | 'f' :: _ => word "false" (.bool false)
  | '"' :: rest =>
    match readString (rest.length + 1) [] true rest with
    | some (s, rest) => (.string s, some rest)
    | none => (.broken, none)
  | _ =>
    match readNumber cs with
    | some (literal, rest) => (.number literal, some rest)
    | none => (.broken, none)
where
  word (w : String) (value : JsonSource) : Step JsonSource :=
    match afterWord? w cs with
    | some rest => (value, some rest)
    | none => (.broken, none)

mutual

/-- A value, with space before it. -/
def readValue : Nat → List Char → Step JsonSource
  | 0, _ => (.broken, none)
  | fuel + 1, cs =>
    match skipSpace cs with
    | '[' :: rest =>
      match skipSpace rest with
      | ']' :: rest => (.array [] true, some rest)
      | rest =>
        let (items, rest) := readItems fuel rest
        (.array items rest.isSome, rest)
    | '\x7b' :: rest =>
      match skipSpace rest with
      | '\x7d' :: rest => (.object [] true, some rest)
      | rest =>
        let (members, rest) := readMembers fuel rest
        (.object members rest.isSome, rest)
    | cs => readScalar cs

/-- The items of an array up to and with its closing bracket. -/
def readItems : Nat → List Char → Step (List JsonSource)
  | 0, _ => ([], none)
  | fuel + 1, cs =>
    match readValue fuel cs with
    | (v, none) => ([v], none)
    | (v, some rest) =>
      match skipSpace rest with
      | ',' :: rest =>
        let (items, rest) := readItems fuel rest
        (v :: items, rest)
      | ']' :: rest => ([v], some rest)
      | _ => ([v], none)

/-- The members of an object up to and with its closing bracket. -/
def readMembers : Nat → List Char → Step (List (Option String × JsonSource))
  | 0, _ => ([], none)
  | fuel + 1, cs =>
    match skipSpace cs with
    | '"' :: rest =>
      match readString (rest.length + 1) [] true rest with
      | some (key, rest) =>
        match skipSpace rest with
        | ':' :: rest =>
          match readValue fuel rest with
          | (v, none) => ([(key, v)], none)
          | (v, some rest) =>
            match skipSpace rest with
            | ',' :: rest =>
              let (members, rest) := readMembers fuel rest
              ((key, v) :: members, rest)
            | '\x7d' :: rest => ([(key, v)], some rest)
            | _ => ([(key, v)], none)
        | _ => ([(key, .broken)], none)
      | none => ([], none)
    | _ => ([], none)

end

/-- A whole text: its value, and whether nothing but space follows. -/
def ofString (text : String) : JsonSource × Bool :=
  let cs := text.toList
  match readValue (2 * cs.length + 2) cs with
  | (v, none) => (v, false)
  | (v, some rest) => (v, (skipSpace rest).isEmpty)

end JsonSource

mutual

/-- The value of a tree without faults. Of a repeated member the last value stays, and the members
are sorted. -/
def JsonSource.toJson? : JsonSource → Option Json
  | .null => some .null
  | .bool b => some (.bool b)
  | .number literal => literal.value?.map .number
  | .string s => s.map .string
  | .array items closed =>
    if closed then (JsonSource.itemsToJson? items).map .array else none
  | .object members closed =>
    if closed then
      (JsonSource.membersToJson? members).map fun ms => Json.ofMap (SortedMap.ofList ms)
    else none
  | .broken => none

def JsonSource.itemsToJson? : List JsonSource → Option (List Json)
  | [] => some []
  | v :: rest =>
    match v.toJson?, JsonSource.itemsToJson? rest with
    | some v, some rest => some (v :: rest)
    | _, _ => none

def JsonSource.membersToJson? : List (Option String × JsonSource) → Option (List (String × Json))
  | [] => some []
  | (k, v) :: rest =>
    match k, v.toJson?, JsonSource.membersToJson? rest with
    | some k, some v, some rest => some ((k, v) :: rest)
    | _, _, _ => none

end

/-- The value of a JSON text. -/
def Json.parse? (text : String) : Option Json :=
  match JsonSource.ofString text with
  | (source, true) => source.toJson?
  | (_, false) => none

end PresetPipeline
