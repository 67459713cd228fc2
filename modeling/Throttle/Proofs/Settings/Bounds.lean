import Throttle.Settings.Resolve

/-!
# Bounds of resolved settings

Whatever a source says, it resolves to limits of at least one and to windows of at least a second.
-/

namespace Throttle.Settings

theorem positiveSetting_pos (source : Source) (name : SettingName) {default : UInt64}
    (warning : String → Nat → Event) (hdefault : default ≠ 0) :
    0 < (positiveSetting source name default warning).value.toNat := by
  rw [Nat.pos_iff_ne_zero, ← UInt64.toNat_zero, ne_eq, UInt64.toNat_inj, positiveSetting]
  split
  · exact hdefault
  · assumption

theorem resolve_limit_pos (source : Source) (methods : MethodClass) :
    0 < ((resolve source).value.policy methods).limit.toNat := by
  cases methods with
  | mutating => exact positiveSetting_pos source .mutatingLimit .zeroLimit (by decide)
  | read => exact positiveSetting_pos source .readLimit .zeroLimit (by decide)

theorem resolve_windowSecs_pos (source : Source) (methods : MethodClass) :
    0 < ((resolve source).value.policy methods).windowSecs.toNat := by
  cases methods with
  | mutating => exact positiveSetting_pos source .mutatingWindow .zeroWindow (by decide)
  | read => exact positiveSetting_pos source .readWindow .zeroWindow (by decide)

theorem resolve_window_pos (source : Source) (methods : MethodClass) :
    0 < ((resolve source).value.policy methods).window :=
  Nat.mul_pos (resolve_windowSecs_pos source methods) (by decide)

end Throttle.Settings
