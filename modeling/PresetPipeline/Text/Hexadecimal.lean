/-!
# Hexadecimal digits

* `hexValue?` — the value of a digit; letters count in either case.
* `hexDigit`, `hexDigits` — the digits of a number, with small letters.
* `numberIn?` — the number that a text writes in a base of at most sixteen.
-/

set_option autoImplicit false

namespace PresetPipeline.Text

/-- The value of a hexadecimal digit. -/
def hexValue? (c : Char) : Option Nat :=
  if c.isDigit then some (c.toNat - 48)
  else if 'a' ≤ c ∧ c ≤ 'f' then some (c.toNat - 87)
  else if 'A' ≤ c ∧ c ≤ 'F' then some (c.toNat - 55)
  else none

/-- The digit of a number below sixteen. -/
def hexDigit (n : Nat) : Char := Nat.digitChar n

/-- The last `width` digits of a number. -/
def hexDigits : (width n : Nat) → List Char
  | 0, _ => []
  | width + 1, n => hexDigits width (n / 16) ++ [hexDigit (n % 16)]

/-- The number that digits write in a base. -/
def numberIn? (base : Nat) : List Char → Option Nat
  | [] => none
  | digits => digits.foldl (fun n c =>
      match n, hexValue? c with
      | some n, some d => if d < base then some (base * n + d) else none
      | _, _ => none) (some 0)

example : numberIn? 16 "1fF".toList = some 511 := by decide +kernel
example : numberIn? 8 "18".toList = none := by decide +kernel
example : String.ofList (hexDigits 4 0x85) = "0085" := by decide +kernel

end PresetPipeline.Text
