import Throttle.Decimal

/-!
# Numbers of double precision

A finite number is a significand below `2 ^ 53` times a power of two that is at least `2 ^ -1074`.
`nearest` rounds a quotient to such a number, a tie going to the even significand; products and
quotients are rounded in the same way.  `text` writes a number with the fewest digits that are
nearer to it than to every other, without an exponent.  All arithmetic is exact.
-/

namespace Throttle

/-- A number of double precision: finite, with its sign, or infinite, or no number at all. -/
inductive Binary64 where
  | finite (negative : Bool) (significand : Nat) (exponent : Int)
  | infinite (negative : Bool)
  | notANumber
deriving DecidableEq, Repr, Inhabited

namespace Binary64

/-- `base ^ n` for a positive exponent, and one otherwise. -/
def power (base : Nat) (n : Int) : Nat := Nat.pow base n.toNat

/-- The quotient `num / den / 2 ^ e` rounded to a whole number, ties to even. -/
def roundAt (num den : Nat) (e : Int) : Nat :=
  let num := num * power 2 (-e)
  let den := den * power 2 e
  let q := num / den
  let twice := 2 * (num % den)
  if twice > den || (twice == den && q % 2 == 1) then q + 1 else q

/-- The whole part of `num / den / 2 ^ e`. -/
def floorAt (num den : Nat) (e : Int) : Nat :=
  (num * power 2 (-e)) / (den * power 2 e)

/-- The number that is nearest to `± num / den`, for a positive `den`. -/
def nearest (negative : Bool) (num den : Nat) : Binary64 :=
  if num = 0 then .finite negative 0 (-1074)
  else
    let low := max ((num.log2 : Int) - den.log2 - 53) (-1074)
    let e := if floorAt num den low < Nat.pow 2 53 then low else low + 1
    let q := roundAt num den e
    let (q, e) := if q = Nat.pow 2 53 then (Nat.pow 2 52, e + 1) else (q, e)
    if e > 971 then .infinite negative else .finite negative q e

/-- The number that is nearest to `± mantissa · 10 ^ exponent`. -/
def ofDecimal (negative : Bool) (mantissa : Nat) (exponent : Int) : Binary64 :=
  let magnitude := (Decimal.ofNat mantissa).length + exponent
  if mantissa = 0 ∨ magnitude < -400 then .finite negative 0 (-1074)
  else if magnitude > 400 then .infinite negative
  else nearest negative (mantissa * power 10 exponent) (power 10 (-exponent))

def ofNat (n : Nat) : Binary64 := nearest false n 1

def wholePart : Binary64 → Nat
  | .finite _ m e => m * power 2 e / power 2 (-e)
  | _ => 0

/-- The product of two numbers; one that is not finite gives no number. -/
def mul : Binary64 → Binary64 → Binary64
  | .finite negative m e, .finite negative' m' e' =>
    nearest (negative != negative') (m * m' * power 2 (e + e')) (power 2 (-(e + e')))
  | _, _ => .notANumber

/-- The quotient of two numbers; one that is not finite, or a divisor of zero, gives no number. -/
def div : Binary64 → Binary64 → Binary64
  | .finite negative m e, .finite negative' m' e' =>
    if m' = 0 then .notANumber
    else nearest (negative != negative') (m * power 2 (e - e')) (m' * power 2 (e' - e))
  | _, _ => .notANumber

/-- The sum of two numbers that are not negative; one that is not finite gives no number. -/
def add : Binary64 → Binary64 → Binary64
  | .finite _ m e, .finite _ m' e' =>
    let low := min e e'
    nearest false ((m * power 2 (e - low) + m' * power 2 (e' - low)) * power 2 low) (power 2 (-low))
  | _, _ => .notANumber

/-- Whether a number that is not negative is less than another such number. -/
def less : Binary64 → Binary64 → Bool
  | .finite _ m e, .finite _ m' e' => m * power 2 (e - e') < m' * power 2 (e' - e)
  | _, _ => false

def isZero : Binary64 → Bool
  | .finite _ m _ => m == 0
  | _ => false

/-- Which of two decimals is written that are equally near to a number. -/
inductive Tie where
  | toEven
  | up
deriving DecidableEq, Repr, Inhabited

/-- The digits `c` such that `c · 10 ^ p` rounds to `significand · 2 ^ e`, the nearest such, if
there are any.  Everything is compared in units of a quarter of the last binary place, times a
power of ten. -/
def digitsAt? (tie : Tie) (significand : Nat) (e p : Int) : Option Nat :=
  let binary := power 2 (e - 2) * power 10 (-p)
  let decimal := power 10 p * power 2 (2 - e)
  let value := 4 * significand * binary
  let below := if significand = Nat.pow 2 52 ∧ e > -1074 then 1 else 2
  let least := (4 * significand - below) * binary
  let greatest := (4 * significand + 2) * binary
  let hits (c : Nat) : Bool :=
    if significand % 2 = 0 then least ≤ c * decimal && c * decimal ≤ greatest
    else least < c * decimal && c * decimal < greatest
  let c := value / decimal
  match hits c, hits (c + 1) with
  | true, true =>
    let before := value - c * decimal
    let after := (c + 1) * decimal - value
    some (if before < after || (before == after && tie == .toEven && c % 2 == 0) then c else c + 1)
  | true, false => some c
  | false, true => some (c + 1)
  | false, false => none

/-- The fewest digits that read back as a positive number, and the power of ten of the last. -/
def shortest (tie : Tie) (significand : Nat) (e : Int) : Nat × Int :=
  let top := (Decimal.ofNat (significand * power 2 e / power 2 (-e))).length
  let places := (List.range 350).map fun (i : Nat) => (top : Int) - i
  (places.findSome? fun p => (digitsAt? tie significand e p).bind fun c =>
    if c = 0 then none else some (c, p)).getD (0, 0)

/-- The digits of `c · 10 ^ p` without an exponent and without a zero at the end of a fraction. -/
def positional (c : Nat) (p : Int) : List Char :=
  let ds := Decimal.ofNat c
  if 0 ≤ p then ds ++ List.replicate p.toNat '0'
  else
    let n := (-p).toNat
    let ds := List.replicate (n + 1 - ds.length) '0' ++ ds
    ds.take (ds.length - n) ++ '.' :: ds.drop (ds.length - n)

/-- The shortest text of a number without an exponent; a tie goes up. -/
def text : Binary64 → String
  | .notANumber => "NaN"
  | .infinite negative => if negative then "-inf" else "inf"
  | .finite negative significand e =>
    let sign := if negative then "-" else ""
    if significand = 0 then sign ++ "0"
    else
      let (c, p) := shortest .up significand e
      sign ++ String.ofList (positional c p)

end Binary64

end Throttle
