import PresetPipeline.Decimal.Shortest

/-!
# Styles of writing doubles

How the shortest decimal of a double is laid out: with a point, or with an exponent.

* `Style` — the decisions that differ between the places where doubles are written.
* `Style.render` — the text of a double.
-/

set_option autoImplicit false

namespace PresetPipeline.Decimal

/-- The decisions of a layout. -/
structure Style where
  /-- Values from `10 ^ -5` up to `10 ^ 16` are positional and all others have an exponent; when
  `false`, every value is positional. -/
  exponents : Bool
  /-- A whole positional value ends in `.0`. -/
  pointZero : Bool
  /-- A positive exponent has a plus sign. -/
  exponentPlus : Bool
  tie : Tie
  nan : String
  infinity : String
  deriving DecidableEq, Repr

def zeros (n : Nat) : String := String.ofList (List.replicate n '0')

/-- A decimal with its digits around a point. -/
def Style.positional (style : Style) (digits : List Char) (exponent : Int) : String :=
  let whole := Int.ofNat digits.length + exponent
  if 0 ≤ exponent then
    String.ofList digits ++ zeros exponent.toNat ++ if style.pointZero then ".0" else ""
  else if 0 < whole then
    String.ofList (digits.take whole.toNat) ++ "." ++ String.ofList (digits.drop whole.toNat)
  else
    "0." ++ zeros (-whole).toNat ++ String.ofList digits

/-- A decimal with one digit before the point and an exponent. -/
def Style.scientific (style : Style) (digits : List Char) (exponent : Int) : String :=
  let leading := Int.ofNat digits.length + exponent - 1
  let mantissa := match digits with
    | [] => "0"
    | [d] => String.ofList [d]
    | d :: rest => String.ofList (d :: '.' :: rest)
  mantissa ++ "e" ++ (if style.exponentPlus && 0 < leading then "+" else "") ++ toString leading

/-- The text of the magnitude of a finite double. -/
def Style.magnitude (style : Style) (x : Float) : String :=
  let d := shortest (Binary.ofFloat x) style.tie
  let digits := Nat.toDigits 10 d.coefficient
  let leading := Int.ofNat digits.length + d.exponent - 1
  if style.exponents && !(-5 ≤ leading && leading < 16) then
    style.scientific digits d.exponent
  else style.positional digits d.exponent

/-- The text of a double. -/
def Style.render (style : Style) (x : Float) : String :=
  if x.isNaN then style.nan
  else
    let sign := if isNegative x then "-" else ""
    if x.isInf then sign ++ style.infinity else sign ++ style.magnitude x

/-- Whole values and values without an exponent, as in a sentence. -/
def plain : Style := ⟨false, false, false, .up, "NaN", "inf"⟩

example : plain.render 1e-9 = "0.000000001" := by decide +kernel
example : plain.render 2.0 = "2" := by decide +kernel
example : plain.render (-0.0) = "-0" := by decide +kernel

end PresetPipeline.Decimal
