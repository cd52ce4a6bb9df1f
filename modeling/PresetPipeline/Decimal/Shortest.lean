/-!
# Shortest decimals

The shortest decimal that reads back as a given double, found in exact natural arithmetic.

* `Binary.ofFloat` — a finite double as `significand · 2 ^ exponent`.
* `Bounds` — the double and the ends of the interval of numbers that round to it, over one
  denominator.
* `shortest` — the coarsest decimal grid with a point in the interval, and its nearest point.
-/

set_option autoImplicit false

namespace PresetPipeline.Decimal

/-- The magnitude of a finite double: `significand · 2 ^ exponent`. `narrow` holds when the double
below is only half as far away as the one above. -/
structure Binary where
  significand : Nat
  exponent : Int
  narrow : Bool
  deriving DecidableEq, Repr

/-- Whether the sign bit is set, also for zero and for not-a-number. -/
def isNegative (x : Float) : Bool := x.toBits >>> 63 == 1

/-- Reads the fields of the 64-bit format; the sign is left out. -/
def Binary.ofFloat (x : Float) : Binary :=
  let biased := ((x.toBits >>> 52) &&& 0x7FF).toNat
  let fraction := (x.toBits &&& 0xFFFFFFFFFFFFF).toNat
  if biased = 0 then ⟨fraction, -1074, false⟩
  else ⟨Nat.pow 2 52 + fraction, Int.ofNat biased - 1075, fraction == 0 && 1 < biased⟩

/-- A decimal `coefficient · 10 ^ exponent`. -/
structure Scaled where
  coefficient : Nat
  exponent : Int
  deriving DecidableEq, Repr

/-- Which of two equally near decimals is taken. -/
inductive Tie where
  | even
  | up
  deriving DecidableEq, Repr

/-- A value and the interval around it, all over the denominator `den`. The ends belong to the
interval when `closed` holds. -/
structure Bounds where
  low : Nat
  value : Nat
  high : Nat
  den : Nat
  closed : Bool
  deriving DecidableEq, Repr

/-- The numbers that round to the double: half a step up, and half or a quarter of one down. -/
def Binary.bounds (b : Binary) : Bounds :=
  let s := b.exponent - 2
  let scale := Nat.pow 2 s.toNat
  ⟨(4 * b.significand - if b.narrow then 1 else 2) * scale, 4 * b.significand * scale,
    (4 * b.significand + 2) * scale, Nat.pow 2 (-s).toNat, b.significand % 2 == 0⟩

/-- Counts everything in units of `10 ^ e`. -/
def Bounds.inUnits (b : Bounds) (e : Int) : Bounds :=
  let up := Nat.pow 10 (-e).toNat
  ⟨b.low * up, b.value * up, b.high * up, b.den * Nat.pow 10 e.toNat, b.closed⟩

/-- Whether the whole number `n` lies in the interval. -/
def Bounds.holds (b : Bounds) (n : Nat) : Bool :=
  if b.closed then decide (b.low ≤ n * b.den ∧ n * b.den ≤ b.high)
  else decide (b.low < n * b.den ∧ n * b.den < b.high)

/-- The whole number of the interval that is nearest to the value. -/
def Bounds.nearest? (b : Bounds) (tie : Tie) : Option Nat :=
  let below := b.value / b.den
  let rest := b.value - below * b.den
  match below != 0 && b.holds below, b.holds (below + 1) with
  | false, false => none
  | true, false => some below
  | false, true => some (below + 1)
  | true, true =>
    if 2 * rest < b.den then some below
    else if b.den < 2 * rest then some (below + 1)
    else
      match tie with
      | .up => some (below + 1)
      | .even => some (if below % 2 = 0 then below else below + 1)

/-- The exponent of the leading digit of a positive value. -/
def Bounds.leadingExponent (b : Bounds) : Int :=
  let guess := (Int.ofNat b.value.log2 - Int.ofNat b.den.log2) * 30103 / 100000
  let units := b.inUnits guess
  if units.value < units.den then guess - 1
  else if 10 * units.den ≤ units.value then guess + 1
  else guess

/-- Moves factors ten from the coefficient to the exponent. -/
def stripZeros : Nat → Scaled → Scaled
  | 0, d => d
  | fuel + 1, d =>
    if d.coefficient ≠ 0 ∧ d.coefficient % 10 = 0 then
      stripZeros fuel ⟨d.coefficient / 10, d.exponent + 1⟩
    else d

/-- The shortest decimal that reads back as the double, without trailing zeros. Seventeen digits
always suffice. -/
def shortest (b : Binary) (tie : Tie) : Scaled :=
  if b.significand = 0 then ⟨0, 0⟩
  else
    let bounds := b.bounds
    let top := bounds.leadingExponent
    let found := (List.range 17).findSome? fun n =>
      let e := top - Int.ofNat n
      ((bounds.inUnits e).nearest? tie).map fun c => Scaled.mk c e
    stripZeros 20 (found.getD ⟨0, 0⟩)

end PresetPipeline.Decimal
