/-!
# Letter case

Texts compared up to the case of the ASCII letters; all other characters must agree exactly.

* `sameUpToCase` — the comparison.
-/

set_option autoImplicit false

namespace PresetPipeline.Text

/-- The text with each ASCII capital made small. -/
def lowercase (s : String) : List Char := s.toList.map Char.toLower

/-- Whether two texts are equal up to the case of ASCII letters. -/
def sameUpToCase (s t : String) : Bool := lowercase s == lowercase t

@[simp] theorem sameUpToCase_self (s : String) : sameUpToCase s s = true := by
  simp [sameUpToCase]

theorem sameUpToCase_iff {s t : String} : sameUpToCase s t = true ↔ lowercase s = lowercase t := by
  simp [sameUpToCase]

end PresetPipeline.Text
