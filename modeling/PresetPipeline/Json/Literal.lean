import PresetPipeline.Json.Value
import PresetPipeline.Decimal.Literal

/-!
# JSON number literals

A number literal is read as a significand of 64 bits, scaled once by a power of ten.

* `NumberLiteral` — the parts of a literal.
* `NumberLiteral.significand` — the digits as one number; digits past 64 bits are dropped.
* `NumberLiteral.value?` — the number, or nothing when it is too large for a double.
-/

set_option autoImplicit false

namespace PresetPipeline

/-- The parts of a literal. A literal without a fraction and without an exponent is whole. -/
structure NumberLiteral where
  negative : Bool
  whole : List Char
  fraction : List Char
  /-- The sign and the digits of the exponent. -/
  exponent : Option (Bool × List Char)
  deriving DecidableEq, Repr

namespace NumberLiteral

/-- Numbers below this bound fit a word of 64 bits. -/
def wordBound : Nat := Nat.pow 2 64

/-- Appends digits to a significand as long as it fits a word; also the digits that are left. -/
def appendDigits (significand : Nat) : List Char → Nat × List Char
  | [] => (significand, [])
  | c :: rest =>
    let next := 10 * significand + (c.toNat - 48)
    if next < wordBound then appendDigits next rest else (significand, c :: rest)

/-- The significand, and the power of ten it is scaled by before the exponent counts. -/
def significand (l : NumberLiteral) : Nat × Int :=
  let (whole, dropped) := appendDigits 0 l.whole
  let (all, unread) := appendDigits whole l.fraction
  (all, Int.ofNat dropped.length - Int.ofNat (l.fraction.length - unread.length))

/-- A power of ten as the nearest double. -/
def powerOfTen (n : Nat) : Float := Float.ofScientific 1 false n

/-- Scales by a power of ten, in steps of at most `10 ^ 308`. -/
def scale : Nat → Float → Int → Option Float
  | 0, _, _ => some 0.0
  | fuel + 1, x, e =>
    if e.natAbs ≤ 308 then
      if 0 ≤ e then
        let y := x * powerOfTen e.natAbs
        if y.isInf then none else some y
      else some (x / powerOfTen e.natAbs)
    else if x == 0.0 then some x
    else if 0 ≤ e then none
    else scale fuel (x / powerOfTen 308) (e + 308)

/-- The largest exponent that is not taken for endless. -/
def exponentBound : Nat := Nat.pow 2 31

/-- The magnitude of a literal as a double. -/
def magnitude? (l : NumberLiteral) : Option Float :=
  let (significand, shift) := l.significand
  match l.exponent with
  | none => scale 4 (Float.ofNat significand) shift
  | some (negative, digits) =>
    let e := Decimal.digitsValue digits
    if exponentBound ≤ e then
      if significand ≠ 0 ∧ ¬negative then none else some 0.0
    else scale 4 (Float.ofNat significand) (shift + if negative then -Int.ofNat e else Int.ofNat e)

/-- The number a literal stands for: whole when the literal is whole and fits 64 bits. A negative
zero and a number below the least signed word are doubles. -/
def value? (l : NumberLiteral) : Option JsonNumber :=
  let n := Decimal.digitsValue l.whole
  if l.fraction.isEmpty && l.exponent.isNone && decide (n < wordBound) &&
      (!l.negative || (n != 0 && decide (n ≤ Nat.pow 2 63))) then
    some (.integer (if l.negative then -Int.ofNat n else Int.ofNat n))
  else l.magnitude?.map fun x => .real (Decimal.withSign l.negative x)

end NumberLiteral

end PresetPipeline
