import Throttle.Proofs.Json.RoundTrip
import Throttle.Proofs.Settings.Image
import Throttle.Settings.Json

/-!
# Settings as texts

What of settings is kept by their JSON text.  The password is left out and the time allowed for one
operation is written in whole milliseconds of 64 bits; everything else is read again as it was.  So
resolved settings lose their password only, and so do settings that were themselves read from a
text, whose text is the same from then on.
-/

namespace Throttle

/-! ## Parts -/

theorem Json.word64?_nat (n : UInt64) : (Json.nat n.toNat).word64? = some n := by
  have hn : n.toNat < Nat.pow 2 64 := n.toNat_lt
  show (if n.toNat < Nat.pow 2 64 then some n.toNat else none).map UInt64.ofNat = some n
  rw [if_pos hn, Option.map_some, UInt64.ofNat_toNat]

theorem Json.word16?_nat (n : UInt16) : (Json.nat n.toNat).word16? = some n := by
  have hn : n.toNat < Nat.pow 2 16 := n.toNat_lt
  show (if n.toNat < Nat.pow 2 16 then some n.toNat else none).map UInt16.ofNat = some n
  rw [if_pos hn, Option.map_some, UInt16.ofNat_toNat]

theorem Json.signed64?_int (n : Int64) : (Json.int n.toInt).signed64? = some n := by
  have hleast : -(2 ^ 63) ≤ n.toInt := n.le_toInt
  have hgreatest : n.toInt < 2 ^ 63 := n.toInt_lt
  show (if _ then some (Int64.ofInt n.toInt) else none) = some n
  rw [if_pos ⟨by simpa using hleast, by simpa using hgreatest⟩, Int64.ofInt_toInt]

theorem Json.optionalText?_optionalText (s : Option String) :
    Json.optionalText? (some (.optionalText s)) = some s := by
  cases s <;> rfl

theorem Json.isPlain_nat {n : Nat} (h : n < 2 ^ 64) : (Json.nat n).IsPlain :=
  .int (by omega) (by omega)

theorem Json.isPlain_optionalText (s : Option String) : (Json.optionalText s).IsPlain := by
  cases s with
  | none => exact .null
  | some s => exact .text s

theorem BackendMode.ofJson?_word (mode : BackendMode) :
    BackendMode.ofJson? (.text mode.word) = some mode := by
  cases mode <;> rfl

theorem WindowPolicy.ofJson?_toJson (policy : WindowPolicy) :
    WindowPolicy.ofJson? policy.toJson = some policy := by
  have hparts : policy.toJson.parts? ["limit", "window_secs"] =
      some [some (.nat policy.limit.toNat), some (.nat policy.windowSecs.toNat)] := by
    rfl
  simp only [ofJson?, hparts, Option.bind_eq_bind, Option.bind_some, Json.word64?_nat,
    Option.pure_def]

theorem WindowPolicy.isPlain_toJson (policy : WindowPolicy) : policy.toJson.IsPlain := by
  refine .object fun field hfield => ?_
  simp only [List.mem_cons, List.not_mem_nil, or_false] at hfield
  rcases hfield with rfl | rfl
  · exact Json.isPlain_nat policy.limit.toNat_lt
  · exact Json.isPlain_nat policy.windowSecs.toNat_lt

/-- The time allowed for one operation is a whole number of milliseconds, of 64 bits. -/
def RedisSettings.HasWholeMillis (redis : RedisSettings) : Prop :=
  ∃ millis < 2 ^ 64, redis.opTimeout = Duration.ofMillis millis

theorem RedisSettings.ofJson?_toJson {redis : RedisSettings} (h : redis.HasWholeMillis) :
    RedisSettings.ofJson? redis.toJson = some { redis with password := none } := by
  obtain ⟨millis, hmillis, htimeout⟩ := h
  have hwhole : Duration.millis redis.opTimeout % Nat.pow 2 64 = millis := by
    rw [htimeout, Duration.millis, Duration.ofMillis, Nat.mul_div_cancel _ (by decide)]
    exact Nat.mod_eq_of_lt hmillis
  have hread : (Json.nat millis).natBelow? (Nat.pow 2 64) = some millis := if_pos hmillis
  have hparts : redis.toJson.parts?
        ["host", "port", "username", "password", "db", "tls", "op_timeout"] =
      some [some (.text redis.host), some (.nat redis.port.toNat),
        some (.optionalText redis.username), none, some (.int redis.db.toInt),
        some (.bool redis.tls), some (.nat millis)] := by
    rw [toJson, hwhole]
    rfl
  have habsent : Json.optionalText? none = some none := rfl
  simp only [ofJson?, hparts, Option.bind_eq_bind, Option.bind_some, Option.pure_def,
    Json.word16?_nat, Json.optionalText?_optionalText, Json.signed64?_int, hread, htimeout,
    Json.text?, Json.truth?, habsent]

theorem RedisSettings.isPlain_toJson (redis : RedisSettings) : redis.toJson.IsPlain := by
  have hport : redis.port.toNat < 2 ^ 16 := redis.port.toNat_lt
  have hleast : -(2 ^ 63) ≤ redis.db.toInt := redis.db.le_toInt
  have hgreatest : redis.db.toInt < 2 ^ 63 := redis.db.toInt_lt
  refine .object fun field hfield => ?_
  simp only [List.mem_cons, List.not_mem_nil, or_false] at hfield
  rcases hfield with rfl | rfl | rfl | rfl | rfl | rfl
  · exact .text _
  · exact Json.isPlain_nat (by omega)
  · exact Json.isPlain_optionalText _
  · exact .int hleast (by omega)
  · exact .bool _
  · exact Json.isPlain_nat (Nat.mod_lt _ (by decide))

theorem RedisSettings.hasWholeMillis_of_ofJson? {j : Json} {redis : RedisSettings}
    (h : RedisSettings.ofJson? j = some redis) : redis.HasWholeMillis := by
  simp only [ofJson?, Option.bind_eq_bind, Option.bind_eq_some_iff] at h
  obtain ⟨parts, -, h⟩ := h
  split at h
  · simp only [Option.bind_eq_some_iff, Option.pure_def, Option.some.injEq] at h
    obtain ⟨-, -, -, -, -, -, -, -, -, -, -, -, millis, hmillis, rfl⟩ := h
    refine ⟨millis, ?_, rfl⟩
    unfold Json.natBelow? at hmillis
    split at hmillis
    · split at hmillis
      · next hbelow =>
        injection hmillis with hmillis
        exact hmillis ▸ hbelow
      · cases hmillis
    · cases hmillis
  · cases h

namespace Settings

def withoutPassword (settings : Settings) : Settings :=
  { settings with redis := { settings.redis with password := none } }

theorem isPlain_toJson (settings : Settings) : settings.toJson.IsPlain := by
  refine .object fun field hfield => ?_
  simp only [List.mem_cons, List.not_mem_nil, or_false] at hfield
  rcases hfield with rfl | rfl | rfl | rfl | rfl | rfl | rfl
  · exact WindowPolicy.isPlain_toJson _
  · exact WindowPolicy.isPlain_toJson _
  · exact .text _
  · exact .text _
  · exact .text _
  · exact .bool _
  · exact RedisSettings.isPlain_toJson _

theorem ofJson?_toJson {settings : Settings} (h : settings.redis.HasWholeMillis) :
    ofJson? settings.toJson = some settings.withoutPassword := by
  have hparts : settings.toJson.parts? ["mutating", "read", "mode", "environment", "key_prefix",
        "memory_fallback", "redis"] =
      some [some settings.mutating.toJson, some settings.read.toJson,
        some (.text settings.mode.word), some (.text settings.environment),
        some (.text settings.keyPrefix), some (.bool settings.memoryFallback),
        some settings.redis.toJson] := rfl
  simp only [ofJson?, hparts, Option.bind_eq_bind, Option.bind_some, Option.pure_def,
    WindowPolicy.ofJson?_toJson, BackendMode.ofJson?_word, RedisSettings.ofJson?_toJson h,
    Json.text?, Json.truth?, withoutPassword]

theorem hasWholeMillis_of_ofJson? {j : Json} {settings : Settings}
    (h : ofJson? j = some settings) : settings.redis.HasWholeMillis := by
  simp only [ofJson?, Option.bind_eq_bind, Option.bind_eq_some_iff] at h
  obtain ⟨parts, -, h⟩ := h
  split at h
  · simp only [Option.bind_eq_some_iff, Option.pure_def, Option.some.injEq] at h
    obtain ⟨-, -, -, -, -, -, -, -, -, -, -, -, redis, hredis, rfl⟩ := h
    exact RedisSettings.hasWholeMillis_of_ofJson? hredis
  · cases h

theorem write_withoutPassword (settings : Settings) :
    settings.withoutPassword.write = settings.write := rfl

theorem hasWholeMillis_resolve (source : Source) :
    (resolve source).value.redis.HasWholeMillis :=
  (isRegular_resolve source).opTimeout

theorem read?_write {settings : Settings} (h : settings.redis.HasWholeMillis) :
    read? settings.write = some settings.withoutPassword := by
  rw [read?, write, Json.read?_write settings.isPlain_toJson, Option.bind_some, ofJson?_toJson h]

theorem hasWholeMillis_of_read? {s : String} {settings : Settings} (h : read? s = some settings) :
    settings.redis.HasWholeMillis := by
  obtain ⟨j, -, hj⟩ := Option.bind_eq_some_iff.1 h
  exact hasWholeMillis_of_ofJson? hj

/-- Settings are read from their own text, all but the password, if the time allowed for one
operation is a whole number of milliseconds of 64 bits.  That is so for settings from every source
and for settings from every text; the text of the latter is read again, and what is read has the
same text. -/
theorem text_keeps_all_but_password :
    (∀ settings : Settings, settings.redis.HasWholeMillis →
      read? settings.write = some settings.withoutPassword) ∧
    (∀ source, (resolve source).value.redis.HasWholeMillis) ∧
    ∀ s settings, read? s = some settings →
      settings.redis.HasWholeMillis ∧
      ∃ again, read? settings.write = some again ∧ again.write = settings.write := by
  refine ⟨fun settings h => read?_write h, hasWholeMillis_resolve, fun s settings h => ?_⟩
  have hmillis := hasWholeMillis_of_read? h
  exact ⟨hmillis, settings.withoutPassword, read?_write hmillis, settings.write_withoutPassword⟩

/-- Settings at the ends of their ranges, read from a list of their parts. -/
theorem text_keeps_all_but_password_at_ends :
    let text := "[[18446744073709551615,0],[0,18446744073709551615],\"shared\"," ++
      "\"\\u0000\\\"\\\\\\ud83d\\ude00\",\"\\u001F\\/\\n\",false," ++
      "[\"\",65535,null,\"secret\",-9223372036854775808,true,18446744073709551615]]"
    let settings : Settings := ⟨⟨18446744073709551615, 0⟩, ⟨0, 18446744073709551615⟩, .shared,
      "\u0000\"\\😀", "\u001f/\n", false, ⟨"", 65535, none, some "secret", -9223372036854775808,
        true, 18446744073709551615000000⟩⟩
    read? text = some settings ∧ settings.redis.HasWholeMillis ∧
    read? settings.write = some settings.withoutPassword ∧ settings.withoutPassword ≠ settings ∧
    ∃ again, read? settings.write = some again ∧ again.write = settings.write := by
  intro text settings
  have hread : read? text = some settings := by decide +kernel
  have hmillis : settings.redis.HasWholeMillis := ⟨18446744073709551615, by decide, rfl⟩
  exact ⟨hread, hmillis, text_keeps_all_but_password.1 settings hmillis, by decide,
    (text_keeps_all_but_password.2.2 text settings hread).2⟩

end Settings

end Throttle
