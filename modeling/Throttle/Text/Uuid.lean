import Throttle.Text.Hex

/-!
# Random names

A random name has 32 hexadecimal digits in five groups, with small letters; of these digits one
tells the version and one the variant.
-/

namespace Throttle.Text

/-- The `width` last hexadecimal digits of a number, with small letters. -/
def hexDigits (n : Nat) : Nat → List Char
  | 0 => []
  | width + 1 => hexDigits (n / 16) width ++ [(hexDigit (n % 16)).toLower]

/-- The random name of a number below `2 ^ 122`. -/
def uuid (n : Nat) : String :=
  let third := 0x4000 + n / Nat.pow 2 62 % Nat.pow 2 12
  let fourth := 0x8000 + n / Nat.pow 2 48 % Nat.pow 2 14
  let parts :=
    [(n / Nat.pow 2 90, 8), (n / Nat.pow 2 74, 4), (third, 4), (fourth, 4), (n, 12)]
  "-".intercalate (parts.map fun (part, width) => String.ofList (hexDigits part width))

end Throttle.Text
