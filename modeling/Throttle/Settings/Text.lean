import Throttle.Settings.Basic
import Throttle.Text.Quoted
import Throttle.Text.Record

/-!
# The text of settings

The printed form of settings shows everything but the password, of which it shows only whether there
is one.
-/

namespace Throttle

open Text (record quoted truth)

def WindowPolicy.text (policy : WindowPolicy) : String :=
  record "WindowPolicy" [
    ("limit", Decimal.natText policy.limit.toNat),
    ("window_secs", Decimal.natText policy.windowSecs.toNat)]

def RedisSettings.text (redis : RedisSettings) : String :=
  record "RedisSettings" [
    ("host", quoted redis.host),
    ("port", Decimal.natText redis.port.toNat),
    ("username", Text.optional (redis.username.map quoted)),
    ("password", Text.optional (redis.password.map fun _ => quoted "<redacted>")),
    ("db", Decimal.intText redis.db.toInt),
    ("tls", truth redis.tls),
    ("op_timeout", Duration.text redis.opTimeout)]

def Settings.text (settings : Settings) : String :=
  record "LimiterSettings" [
    ("mutating", settings.mutating.text),
    ("read", settings.read.text),
    ("mode", settings.mode.name),
    ("environment", quoted settings.environment),
    ("key_prefix", quoted settings.keyPrefix),
    ("memory_fallback", truth settings.memoryFallback),
    ("redis", settings.redis.text)]

end Throttle
