import PresetPipeline.Json.Value
import PresetPipeline.Decimal.Style
import PresetPipeline.Text.Hexadecimal

/-!
# Printing JSON

* `Json.compact` — a value without any space.
* `Json.pretty` — a value with one item a line, indented by two spaces a level.
* `Json.quote` — a string in quotes, with the escapes JSON requires and no others.
-/

set_option autoImplicit false

namespace PresetPipeline

/-- A number keeps a point or an exponent when it is a double; a positive exponent has a sign. -/
def Decimal.jsonStyle : Decimal.Style := ⟨true, true, true, .even, "null", "null"⟩

example : Decimal.jsonStyle.render 1e16 = "1e+16" := by decide +kernel
example : Decimal.jsonStyle.render 1e-5 = "0.00001" := by decide +kernel
example : Decimal.jsonStyle.render 123.25 = "123.25" := by decide +kernel

/-- A character inside quotes. -/
def Json.escape (c : Char) : String :=
  match c with
  | '"' => "\\\""
  | '\\' => "\\\\"
  | '\n' => "\\n"
  | '\r' => "\\r"
  | '\t' => "\\t"
  | c =>
    if c.toNat = 8 then "\\b"
    else if c.toNat = 12 then "\\f"
    else if c.toNat < 32 then
      "\\u" ++ String.ofList (Text.hexDigits 4 c.toNat)
    else String.singleton c

def Json.quote (s : String) : String :=
  s.foldl (fun out c => out ++ Json.escape c) "\"" ++ "\""

def JsonNumber.text : JsonNumber → String
  | .integer n => toString n
  | .real x => Decimal.jsonStyle.render x

mutual

/-- The text of a value, with nothing between its parts. -/
def Json.compact : Json → String
  | .null => "null"
  | .bool b => if b then "true" else "false"
  | .number n => n.text
  | .string s => Json.quote s
  | .array items => "[" ++ Json.compactItems items ++ "]"
  | .object members => "\x7b" ++ Json.compactMembers members ++ "\x7d"

def Json.compactItems : List Json → String
  | [] => ""
  | [v] => v.compact
  | v :: rest => v.compact ++ "," ++ Json.compactItems rest

def Json.compactMembers : List (String × Json) → String
  | [] => ""
  | [(k, v)] => Json.quote k ++ ":" ++ v.compact
  | (k, v) :: rest => Json.quote k ++ ":" ++ v.compact ++ "," ++ Json.compactMembers rest

end

/-- A line break and the indentation of a level. -/
def Json.lineBreak (level : Nat) : String := "\n" ++ String.ofList (List.replicate (2 * level) ' ')

mutual

/-- The text of a value that stands at a level of indentation. -/
def Json.prettyAt (level : Nat) : Json → String
  | .array [] => "[]"
  | .array (v :: rest) =>
    "[" ++ Json.lineBreak (level + 1) ++ v.prettyAt (level + 1) ++
      Json.prettyItems (level + 1) rest ++ Json.lineBreak level ++ "]"
  | .object [] => "\x7b\x7d"
  | .object ((k, v) :: rest) =>
    "\x7b" ++ Json.lineBreak (level + 1) ++ Json.quote k ++ ": " ++ v.prettyAt (level + 1) ++
      Json.prettyMembers (level + 1) rest ++ Json.lineBreak level ++ "\x7d"
  | .null => "null"
  | .bool b => if b then "true" else "false"
  | .number n => n.text
  | .string s => Json.quote s

/-- The items after the first, each after a comma on a line of its own. -/
def Json.prettyItems (level : Nat) : List Json → String
  | [] => ""
  | v :: rest => "," ++ Json.lineBreak level ++ v.prettyAt level ++ Json.prettyItems level rest

/-- The members after the first, each after a comma on a line of its own. -/
def Json.prettyMembers (level : Nat) : List (String × Json) → String
  | [] => ""
  | (k, v) :: rest =>
    "," ++ Json.lineBreak level ++ Json.quote k ++ ": " ++ v.prettyAt level ++
      Json.prettyMembers level rest

end

/-- The text of a value on as many lines as it has parts. -/
def Json.pretty (v : Json) : String := v.prettyAt 0

end PresetPipeline
