import PresetPipeline.Decimal.Style
import PresetPipeline.Json.Value
import PresetPipeline.Yaml.Written

/-!
# Printing YAML

Values in block style: one item or entry a line, each level two columns further to the right. A list
that is the value of a key stands below the key without further indentation.

* `nodeText` — a value from its first column to the end of its last line.
* `print` — a whole document.
-/

set_option autoImplicit false

namespace PresetPipeline.Yaml

/-- A double keeps a point or an exponent, and a positive exponent has no sign. -/
def realStyle : Decimal.Style := ⟨true, true, false, .even, ".nan", ".inf"⟩

def numberText : JsonNumber → String
  | .integer n => toString n
  | .real x => realStyle.render x

/-- A string from its first column to the end of its last line. -/
def stringText (indent : Nat) (s : String) : String :=
  writtenAs (styleOf s) indent s ++ lineEnd (styleOf s) s

def spaces (n : Nat) : String := String.ofList (blanks n)

/-- A key of a mapping at column `indent`, up to its colon. -/
def keyText (indent : Nat) (key : String) : String :=
  if mayBeSimpleKey key then writtenAs (styleOf key) (indent + 2) key ++ ":"
  else "? " ++ stringText (indent + 2) key ++ spaces indent ++ ":"

mutual

/-- A value whose first line starts at column `indent`. -/
def nodeText (indent : Nat) : Json → String
  | .null => "null\n"
  | .bool b => if b then "true\n" else "false\n"
  | .number n => numberText n ++ "\n"
  | .string s => stringText indent s
  | .array [] => "[]\n"
  | .array (v :: rest) => "- " ++ nodeText (indent + 2) v ++ itemsText indent rest
  | .object [] => "\x7b\x7d\n"
  | .object ((k, v) :: rest) =>
    keyText indent k ++ valueText indent (mayBeSimpleKey k) v ++ entriesText indent rest

/-- Items that each start a line. -/
def itemsText (indent : Nat) : List Json → String
  | [] => ""
  | v :: rest => spaces indent ++ "- " ++ nodeText (indent + 2) v ++ itemsText indent rest

/-- Entries that each start a line. -/
def entriesText (indent : Nat) : List (String × Json) → String
  | [] => ""
  | (k, v) :: rest =>
    spaces indent ++ keyText indent k ++ valueText indent (mayBeSimpleKey k) v ++
      entriesText indent rest

/-- The value of a key at column `indent`, after the colon. -/
def valueText (indent : Nat) (simple : Bool) : Json → String
  | .array (v :: rest) =>
    if simple then "\n" ++ itemsText indent (v :: rest)
    else " - " ++ nodeText (indent + 4) v ++ itemsText (indent + 2) rest
  | .object ((k, v) :: rest) =>
    if simple then "\n" ++ entriesText (indent + 2) ((k, v) :: rest)
    else
      " " ++ keyText (indent + 2) k ++ valueText (indent + 2) (mayBeSimpleKey k) v ++
        entriesText (indent + 2) rest
  | .array [] => " []\n"
  | .object [] => " \x7b\x7d\n"
  | .null => " null\n"
  | .bool b => if b then " true\n" else " false\n"
  | .number n => " " ++ numberText n ++ "\n"
  | .string s => " " ++ stringText (indent + 2) s

end

/-- The document of a value. -/
def print (v : Json) : String := nodeText 0 v

end PresetPipeline.Yaml
