import Throttle.Database.Counter
import Throttle.Limiter.Basic

/-!
# Limiters with a database

The limiter that settings describe in full, with the database that they name as its shared counter.
-/

namespace Throttle.Limiter

/-- The limiter of these settings; the address of the database must be usable if they ask for it. -/
def ofSettings? (settings : Settings) (server : Option Database.Server) :
    Except LimiterError (Outcome (Limiter RedisCounter) Unit) :=
  if settings.usesShared then
    (RedisCounter.ofSettings? settings.redis server).map fun (counter, events) =>
      (build settings (some counter)).after events
  else .ok (build settings none)

end Throttle.Limiter
