import PresetPipeline.Collection.SortedSet

/-!
# Basis gates

The set of the operations that a device executes natively. The order in which the names were given
cannot be seen.

* `BasisGates` — a sorted set of names.
* `BasisGates.ibm`, `BasisGates.iqm` — two well-known sets.
-/

set_option autoImplicit false

namespace PresetPipeline

abbrev BasisGates := SortedSet String

/-- Rotations about Z, square roots of X, and controlled-X. -/
def BasisGates.ibm : BasisGates := .ofList ["id", "rz", "sx", "x", "cx", "reset"]

/-- Phased rotations and controlled-Z. -/
def BasisGates.iqm : BasisGates := .ofList ["prx", "cz", "measure", "barrier"]

end PresetPipeline
