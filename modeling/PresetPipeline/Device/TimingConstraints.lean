/-!
# Timing constraints

How a device restricts the times in a pulse schedule, in units of its sample time.

* `TimingConstraints` — the four numbers; all ones restrict nothing.
-/

set_option autoImplicit false

namespace PresetPipeline

structure TimingConstraints where
  /-- Every pulse length is a multiple of this. -/
  granularity : UInt32
  /-- No pulse is shorter than this. -/
  minLength : UInt32
  /-- Gate pulses start at multiples of this. -/
  pulseAlignment : UInt32
  /-- Acquisitions start at multiples of this. -/
  acquireAlignment : UInt32
  deriving DecidableEq, Repr

namespace TimingConstraints

/-- The constraints that restrict nothing. -/
def unit : TimingConstraints := ⟨1, 1, 1, 1⟩

def isUnconstrained (t : TimingConstraints) : Bool := t == unit

end TimingConstraints

end PresetPipeline
