/-!
# Approximation degrees

How exact the synthesis of unitaries must be: a double from 0 to 1.

* `Degree` — a double in the range.
* `Degree.ofFloat?` — refuses not-a-number and every double outside the range.
-/

set_option autoImplicit false

namespace PresetPipeline

/-- Whether a double lies between 0 and 1, ends included. -/
def isDegree (x : Float) : Bool := 0.0 ≤ x && x ≤ 1.0

structure Degree where
  value : Float
  inRange : isDegree value = true

namespace Degree

def ofFloat? (x : Float) : Option Degree :=
  if h : isDegree x = true then some ⟨x, h⟩ else none

/-- Exact synthesis. -/
def isExact (d : Degree) : Bool := d.value == 1.0

def isBelowExact (d : Degree) : Bool := d.value < 1.0

instance : BEq Degree := ⟨fun a b => a.value == b.value⟩

end Degree

end PresetPipeline
