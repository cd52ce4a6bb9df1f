import PresetPipeline.Decimal.Literal
import PresetPipeline.Text.Hexadecimal

/-!
# What plain YAML scalars stand for

A scalar without quotes stands for nothing, a truth value, a number, or its own text.

* `isNullWord`, `flag?`, `word?`, `integer?`, `real?` — the texts of each kind.
* `hasLeadingZero` — digits that are not a number, because they start with a zero.
* `Plain.ofString` — the first kind that a text belongs to.
-/

set_option autoImplicit false

namespace PresetPipeline.Yaml

def isNullWord (s : String) : Bool := ["~", "null", "Null", "NULL"].contains s

/-- The truth value that a word stands for. -/
def flag? (s : String) : Option Bool :=
  if ["true", "True", "TRUE"].contains s then some true
  else if ["false", "False", "FALSE"].contains s then some false
  else none

/-- Whether a text is nothing but digits after an optional sign, and starts with a zero that is not
all of it. -/
def hasLeadingZero (cs : List Char) : Bool :=
  let digits := (Decimal.splitSign cs).2
  2 ≤ digits.length && digits.head? == some '0' && digits.all Char.isDigit

/-- The number after a base mark: `0x`, `0o` or `0b`. -/
def basedNumber? : List Char → Option Nat
  | '0' :: 'x' :: digits => Text.numberIn? 16 digits
  | '0' :: 'o' :: digits => Text.numberIn? 8 digits
  | '0' :: 'b' :: digits => Text.numberIn? 2 digits
  | _ => none

/-- The number that an unsigned text writes. -/
def magnitude? (cs : List Char) : Option Nat :=
  match basedNumber? cs with
  | some n => some n
  | none => if hasLeadingZero cs then none else Text.numberIn? 10 cs

/-- The whole number that a text writes, of any size. -/
def integer? (s : String) : Option Int :=
  match s.toList with
  | '-' :: rest => (magnitude? rest).map fun n => -Int.ofNat n
  | '+' :: rest => (magnitude? rest).map Int.ofNat
  | cs => (magnitude? cs).map Int.ofNat

/-- The word of 64 bits that a text without a minus sign writes. -/
def word? (s : String) : Option UInt64 :=
  if s.startsWith "-" then none
  else
    match integer? s with
    | some n => if n.toNat < Nat.pow 2 64 then some n.toNat.toUInt64 else none
    | none => none

/-- The double that a text writes. Infinity and not-a-number start with a point; a number that is
too large for a double is none. -/
def real? (s : String) : Option Float :=
  let (negative, rest) := Decimal.splitSign s.toList
  if [".inf", ".Inf", ".INF"].contains (String.ofList rest) then
    some (Decimal.withSign negative (1.0 / 0.0))
  else if [".nan", ".NaN", ".NAN"].contains s then some (0.0 / 0.0)
  else
    match Decimal.Literal.ofChars? rest with
    | some l => if l.toFloat.isFinite then some (Decimal.withSign negative l.toFloat) else none
    | none => none

/-- What a plain scalar stands for. -/
inductive Plain where
  | null
  | flag (value : Bool)
  /-- A whole number of at most 128 bits. -/
  | integer (value : Int)
  | real (value : Float)
  | text

/-- Whether a whole number fits 128 bits. -/
def isWide (n : Int) : Bool := -Int.pow 2 127 ≤ n && n < Int.pow 2 128

/-- The whole number that a text writes, if it fits 128 bits. -/
def wideInteger? (s : String) : Option Int := (integer? s).filter isWide

def Plain.ofString (s : String) : Plain :=
  if s.isEmpty || isNullWord s then .null
  else
    match flag? s, wideInteger? s with
    | some b, _ => .flag b
    | none, some n => .integer n
    | none, none =>
      if hasLeadingZero s.toList then .text
      else
        match real? s with
        | some x => .real x
        | none => .text

/-- Whether a text stands for itself. -/
def Plain.isText : Plain → Bool
  | .text => true
  | _ => false

example : integer? "-0x1F" = some (-31) := by decide +kernel
example : integer? "017" = none := by decide +kernel
example : word? "0b101" = some 5 := by decide +kernel
example : (Plain.ofString "012").isText = true := by decide +kernel

end PresetPipeline.Yaml
