import Mathlib.Algebra.Group.Nat.Defs
import Throttle.Binary64

/-!
# Whole numbers of double precision

A whole number of at most 53 bits is scaled until it has exactly 53, which loses nothing, and so it
is its own nearest number.
-/

namespace Throttle.Binary64

theorem power_of_nonpos (base : Nat) {n : Int} (h : n ≤ 0) : power base n = 1 := by
  rw [power, Int.toNat_of_nonpos h]
  rfl

theorem floorAt_of_nonpos (n : Nat) {e : Int} (h : e ≤ 0) : floorAt n 1 e = n * power 2 (-e) := by
  rw [floorAt, power_of_nonpos 2 h, Nat.mul_one, Nat.div_one]

theorem roundAt_of_nonpos (n : Nat) {e : Int} (h : e ≤ 0) : roundAt n 1 e = n * power 2 (-e) := by
  simp [roundAt, power_of_nonpos 2 h, Nat.mod_one]

/-- A whole number of at most 53 bits is scaled to a significand of exactly as many. -/
theorem significand_bounds {n : Nat} (hpos : n ≠ 0) (hn : n < 2 ^ 53) :
    2 ^ 52 ≤ n * 2 ^ (52 - n.log2) ∧ n * 2 ^ (52 - n.log2) < 2 ^ 53 := by
  have hlog : n.log2 < 53 := (Nat.log2_lt hpos).2 hn
  have hleast : 2 ^ n.log2 ≤ n := Nat.log2_self_le hpos
  have hgreatest : n < 2 ^ (n.log2 + 1) := Nat.lt_log2_self
  constructor
  · calc 2 ^ 52 = 2 ^ n.log2 * 2 ^ (52 - n.log2) := by rw [← Nat.pow_add]; congr 1; omega
      _ ≤ n * 2 ^ (52 - n.log2) := Nat.mul_le_mul_right _ hleast
  · calc n * 2 ^ (52 - n.log2) < 2 ^ (n.log2 + 1) * 2 ^ (52 - n.log2) :=
          Nat.mul_lt_mul_of_pos_right hgreatest (Nat.two_pow_pos _)
      _ = 2 ^ 53 := by rw [← Nat.pow_add]; congr 1; omega

theorem ofNat_of_lt {n : Nat} (hpos : n ≠ 0) (hn : n < 2 ^ 53) :
    ofNat n = .finite false (n * 2 ^ (52 - n.log2)) (n.log2 - 52) := by
  have hlog : n.log2 < 53 := (Nat.log2_lt hpos).2 hn
  obtain ⟨hleast, hgreatest⟩ := significand_bounds hpos hn
  have hlow : max ((n.log2 : Int) - (1 : Nat).log2 - 53) (-1074) = n.log2 - 53 := by
    have hone : (1 : Nat).log2 = 0 := rfl
    omega
  have hfloor : ¬ floorAt n 1 ((n.log2 : Int) - 53) < Nat.pow 2 53 := by
    have hshift : (-((n.log2 : Int) - 53)).toNat = (52 - n.log2) + 1 := by omega
    rw [floorAt_of_nonpos n (by omega), power, hshift]
    have hdouble : n * Nat.pow 2 (52 - n.log2 + 1) = n * 2 ^ (52 - n.log2) * 2 := by
      rw [Nat.mul_assoc, ← Nat.pow_succ]; rfl
    rw [hdouble]
    have htwo : Nat.pow 2 53 = 2 ^ 52 * 2 := rfl
    omega
  have hround : roundAt n 1 ((n.log2 : Int) - 52) = n * 2 ^ (52 - n.log2) := by
    have hshift : (-((n.log2 : Int) - 52)).toNat = 52 - n.log2 := by omega
    rw [roundAt_of_nonpos n (by omega), power, hshift]
    rfl
  have hcarry : n * 2 ^ (52 - n.log2) ≠ Nat.pow 2 53 := Nat.ne_of_lt hgreatest
  have hexponent : (n.log2 : Int) - 53 + 1 = n.log2 - 52 := by omega
  rw [ofNat, nearest, if_neg hpos]
  simp only [hlow, if_neg hfloor, hexponent, hround, if_neg hcarry]
  rw [if_neg (by omega)]

/-- A whole number up to `2 ^ 53` has double precision. -/
theorem wholePart_ofNat {n : Nat} (h : n ≤ 2 ^ 53) : (ofNat n).wholePart = n := by
  rcases Nat.eq_or_lt_of_le h with rfl | hn
  · decide +kernel
  · by_cases hpos : n = 0
    · subst hpos
      decide +kernel
    · have hlog : n.log2 < 53 := (Nat.log2_lt hpos).2 hn
      have hshift : (-((n.log2 : Int) - 52)).toNat = 52 - n.log2 := by omega
      rw [ofNat_of_lt hpos hn, wholePart, power_of_nonpos 2 (by omega), Nat.mul_one, power, hshift]
      exact Nat.mul_div_cancel n (Nat.two_pow_pos _)

end Throttle.Binary64
