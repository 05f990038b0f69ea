/-!
# `ScenarioSteps.Text.Hexadecimal`: characters by their code

A character can be named by its code in hexadecimal digits of either case.
Halves of surrogate pairs and codes beyond Unicode name no character.
-/

set_option autoImplicit false

namespace ScenarioSteps.Text

/-- The value of a hexadecimal digit. -/
def hexDigit? (c : Char) : Option Nat :=
  if '0' ≤ c && c ≤ '9' then some (c.toNat - '0'.toNat)
  else if 'a' ≤ c && c ≤ 'f' then some (c.toNat - 'a'.toNat + 10)
  else if 'A' ≤ c && c ≤ 'F' then some (c.toNat - 'A'.toNat + 10)
  else none

/-- The number that hexadecimal digits write, if all are digits. -/
def hexNumber? (digits : List Char) : Option Nat :=
  digits.foldlM (fun n d => (hexDigit? d).map (16 * n + ·)) 0

/-- The character with a given code, unless the code is half of a surrogate
pair or lies beyond Unicode. -/
def charOfCode? (n : Nat) : Option Char :=
  if n.isValidChar then some (Char.ofNat n) else none

end ScenarioSteps.Text
