/-!
# Decimal literals

Texts that stand for doubles: a sign, digits with at most one point, and an exponent; or the words
for infinity and not-a-number.

* `Literal.ofChars?` — the number written by a text without its sign.
* `Literal.toFloat` — the nearest double.
* `parseReal?` — the double a whole text stands for.
* `parseWhole?` — the whole number a whole text stands for.
-/

set_option autoImplicit false

namespace PresetPipeline.Decimal

/-- The number a digit string writes. -/
def digitsValue (digits : List Char) : Nat :=
  digits.foldl (fun n c => 10 * n + (c.toNat - 48)) 0

/-- An unsigned decimal number: all its digits, and the power of ten they are scaled by. -/
structure Literal where
  digits : List Char
  exponent : Int
  deriving DecidableEq, Repr

/-- The nearest double. Numbers far outside the range of doubles are zero or infinite. -/
def Literal.toFloat (l : Literal) : Float :=
  let digits := l.digits.dropWhile (· == '0')
  let size := Int.ofNat digits.length + l.exponent
  if digits.isEmpty || size < -400 then 0.0
  else if 400 < size then 1.0 / 0.0
  else Float.ofScientific (digitsValue digits) (l.exponent < 0) l.exponent.natAbs

/-- An optional sign, and what follows it. -/
def splitSign : List Char → Bool × List Char
  | '-' :: rest => (true, rest)
  | '+' :: rest => (false, rest)
  | cs => (false, cs)

/-- The exponent part of a literal; no text is the exponent zero. -/
def exponentOfChars? : List Char → Option Int
  | [] => some 0
  | c :: rest =>
    if c = 'e' ∨ c = 'E' then
      let (negative, digits) := splitSign rest
      if digits.isEmpty || !digits.all Char.isDigit then none
      else if negative then some (-Int.ofNat (digitsValue digits))
      else some (Int.ofNat (digitsValue digits))
    else none

/-- An unsigned number: at least one digit, at most one point, and an optional exponent. -/
def Literal.ofChars? (cs : List Char) : Option Literal :=
  let whole := cs.takeWhile Char.isDigit
  let rest := cs.dropWhile Char.isDigit
  let (fraction, tail) := match rest with
    | '.' :: rest => (rest.takeWhile Char.isDigit, rest.dropWhile Char.isDigit)
    | _ => ([], rest)
  if whole.isEmpty && fraction.isEmpty then none
  else (exponentOfChars? tail).map fun e => ⟨whole ++ fraction, e - Int.ofNat fraction.length⟩

/-- Gives a magnitude its sign. -/
def withSign (negative : Bool) (x : Float) : Float := if negative then -x else x

/-- The double a text stands for. The words are read in any letter case. -/
def parseReal? (s : String) : Option Float :=
  let (negative, rest) := splitSign s.toList
  match String.ofList (rest.map Char.toLower) with
  | "inf" | "infinity" => some (withSign negative (1.0 / 0.0))
  | "nan" => some (0.0 / 0.0)
  | _ => (Literal.ofChars? rest).map fun l => withSign negative l.toFloat

/-- The whole number a text writes: digits after an optional sign. -/
def parseWhole? (s : String) : Option Int :=
  let (negative, digits) := splitSign s.toList
  if digits.isEmpty || !digits.all Char.isDigit then none
  else if negative then some (-Int.ofNat (digitsValue digits))
  else some (Int.ofNat (digitsValue digits))

example : (parseReal? "1.e1").map Float.toBits = some (10.0 : Float).toBits := by decide +kernel
example : (parseReal? ".").isNone = true := by decide +kernel

end PresetPipeline.Decimal
