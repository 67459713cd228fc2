/-!
# Hexadecimal digits
-/

namespace Throttle.Text

/-- The capital hexadecimal digit of a number below 16. -/
def hexDigit (n : Nat) : Char :=
  if n < 10 then Char.ofNat (48 + n) else Char.ofNat (55 + n)

/-- The value of a hexadecimal digit of either case. -/
def hexValue? (c : Char) : Option Nat :=
  let n := c.toNat
  if 48 ≤ n ∧ n ≤ 57 then some (n - 48)
  else if 65 ≤ n ∧ n ≤ 70 then some (n - 55)
  else if 97 ≤ n ∧ n ≤ 102 then some (n - 87)
  else none

theorem hexValue?_hexDigit {n : Nat} (h : n < 16) : hexValue? (hexDigit n) = some n := by
  have all : ∀ n < 16, hexValue? (hexDigit n) = some n := by decide
  exact all n h

/-- What holds of the sixteen digits holds of every digit of a number. -/
theorem of_mem_toDigits {p : Char → Prop} (hall : ∀ d < 16, p (Nat.digitChar d)) (n : Nat) :
    ∀ c ∈ Nat.toDigits 16 n, p c := by
  induction n using Nat.strongRecOn with
  | ind n ih =>
      intro c hc
      by_cases hn : n < 16
      · rw [Nat.toDigits_of_lt_base hn, List.mem_singleton] at hc
        rw [hc]
        exact hall n hn
      · rw [Nat.toDigits_of_base_le (by decide) (Nat.not_lt.1 hn), List.mem_append,
          List.mem_singleton] at hc
        rcases hc with hc | rfl
        · exact ih (n / 16) (Nat.div_lt_self (by omega) (by decide)) c hc
        · exact hall (n % 16) (Nat.mod_lt n (by decide))

theorem toDigits_inj {m n : Nat} (h : Nat.toDigits 16 m = Nat.toDigits 16 n) : m = n := by
  have hdigit : ∀ a < 16, ∀ b < 16, Nat.digitChar a = Nat.digitChar b → a = b := by decide
  induction m using Nat.strongRecOn generalizing n with
  | ind m ih =>
      by_cases hm : m < 16 <;> by_cases hn : n < 16
      · rw [Nat.toDigits_of_lt_base hm, Nat.toDigits_of_lt_base hn, List.singleton_inj] at h
        exact hdigit m hm n hn h
      · rw [Nat.toDigits_of_lt_base hm,
          Nat.toDigits_of_base_le (by decide) (Nat.not_lt.1 hn)] at h
        exact absurd (List.append_eq_singleton_iff.1 h.symm) (by simp [Nat.toDigits_ne_nil])
      · rw [Nat.toDigits_of_lt_base hn,
          Nat.toDigits_of_base_le (by decide) (Nat.not_lt.1 hm)] at h
        exact absurd (List.append_eq_singleton_iff.1 h) (by simp [Nat.toDigits_ne_nil])
      · rw [Nat.toDigits_of_base_le (by decide) (Nat.not_lt.1 hm),
          Nat.toDigits_of_base_le (by decide) (Nat.not_lt.1 hn)] at h
        obtain ⟨hfront, hlast⟩ := List.append_inj' h rfl
        have hhigh := ih (m / 16) (Nat.div_lt_self (by omega) (by decide)) hfront
        have hlow := hdigit (m % 16) (Nat.mod_lt m (by decide)) (n % 16)
          (Nat.mod_lt n (by decide)) (List.singleton_inj.1 hlast)
        omega

end Throttle.Text
