/-!
# Optimization levels

How much work a pipeline spends on a circuit, from 0 to 3.

* `Level` — the levels, in order.
* `Level.ofInt?` — the level of a number.
* `ofInt?_isSome_iff` — the numbers of levels are those from 0 to 3.
-/

set_option autoImplicit false

namespace PresetPipeline

inductive Level where
  /-- Only what the device requires. -/
  | level0
  /-- Light optimization. -/
  | level1
  /-- Heavy optimization. -/
  | level2
  /-- The heaviest optimization, with resynthesis. -/
  | level3
  deriving DecidableEq, Repr

namespace Level

/-- Every level, lowest first. -/
def all : List Level := [level0, level1, level2, level3]

def toNat : Level → Nat
  | level0 => 0
  | level1 => 1
  | level2 => 2
  | level3 => 3

def ofInt? (n : Int) : Option Level := all.find? fun l => Int.ofNat l.toNat == n

instance : ToString Level := ⟨fun l => toString l.toNat⟩

@[simp] theorem ofInt?_toNat (l : Level) : ofInt? (Int.ofNat l.toNat) = some l := by
  cases l <;> rfl

theorem ofInt?_isSome_iff {n : Int} : (ofInt? n).isSome = true ↔ 0 ≤ n ∧ n ≤ 3 := by
  unfold ofInt? all
  simp only [List.find?_isSome, List.mem_cons, List.not_mem_nil, or_false, beq_iff_eq, toNat,
    exists_eq_or_imp, exists_eq_left, Int.ofNat_eq_natCast]
  omega

end Level

end PresetPipeline
