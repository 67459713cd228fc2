/-!
# Letter case of ASCII letters

Words of the settings, header names and request methods are compared without regard to the case of
ASCII letters; every other character stands for itself.
-/

namespace Throttle.Text

def asciiLower (s : String) : String :=
  String.ofList (s.toList.map Char.toLower)

def asciiUpper (s : String) : String :=
  String.ofList (s.toList.map Char.toUpper)

/-- A character made capital is itself or a letter from one alphabet before. -/
theorem toUpper_cases (c : Char) :
    c.toUpper = c ∨ 97 ≤ c.toNat ∧ c.toNat ≤ 122 ∧ c.toUpper.toNat = c.toNat - 32 := by
  delta Char.toUpper
  split
  · next hletter =>
      have hlow : 97 ≤ c.val.toNat := UInt32.le_iff_toNat_le.1 hletter.1
      have hhigh : c.val.toNat ≤ 122 := UInt32.le_iff_toNat_le.1 hletter.2
      have hshift : (c.val + ('A'.val - 'a'.val)).toNat = (c.val.toNat + 4294967264) % 2 ^ 32 := by
        simp [UInt32.toNat_add]
      right
      simp only [Char.toNat, hshift]
      omega
  · exact .inl rfl

/-- A character made small is itself or a letter from one alphabet after. -/
theorem toLower_cases (c : Char) :
    c.toLower = c ∨ 65 ≤ c.toNat ∧ c.toNat ≤ 90 ∧ c.toLower.toNat = c.toNat + 32 := by
  delta Char.toLower
  split
  · next hletter =>
      have hlow : 65 ≤ c.val.toNat := UInt32.le_iff_toNat_le.1 hletter.1
      have hhigh : c.val.toNat ≤ 90 := UInt32.le_iff_toNat_le.1 hletter.2
      have hshift : (c.val + ('a'.val - 'A'.val)).toNat = (c.val.toNat + 32) % 2 ^ 32 := by
        simp [UInt32.toNat_add]
      right
      simp only [Char.toNat, hshift]
      omega
  · exact .inl rfl

theorem toUpper_toUpper (c : Char) : c.toUpper.toUpper = c.toUpper := by
  rcases toUpper_cases c with hsame | ⟨hlow, hhigh, hshift⟩
  · rw [hsame, hsame]
  · rcases toUpper_cases c.toUpper with hsame | ⟨hlow', -, -⟩
    · exact hsame
    · omega

theorem asciiUpper_asciiUpper (s : String) : asciiUpper (asciiUpper s) = asciiUpper s := by
  simp only [asciiUpper, String.toList_ofList, List.map_map]
  exact congrArg String.ofList (List.map_congr_left fun c _ => toUpper_toUpper c)

end Throttle.Text
