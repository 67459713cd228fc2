import Throttle.Cli.Program
import Throttle.Main
import Throttle.Proofs.Store.Log
import Throttle.Settings.Json
import Throttle.Shared.Scripted
import Throttle.Proofs.Store.History
import Throttle.Proofs.Store.Quota
import Throttle.Proofs.Store.Hint
import Throttle.Proofs.Store.Sweep
import Throttle.Proofs.Store.Wait
import Throttle.Proofs.Store.Unanswered
import Throttle.Proofs.Store.Limit
import Throttle.Proofs.Key
import Throttle.Proofs.Limiter.Session
import Throttle.Proofs.Settings.Bounds
import Throttle.Proofs.Limiter.InMemory
import Throttle.Proofs.Limiter.Schedule
import Throttle.Proofs.Limiter.Check
import Throttle.Proofs.Limiter.Outline
import Throttle.Proofs.Limiter.Quota
import Throttle.Proofs.Limiter.Isolation
import Throttle.Proofs.Limiter.Breaker
import Throttle.Proofs.Limiter.Charge
import Throttle.Proofs.Limiter.Move
import Throttle.Proofs.Limiter.Path
import Throttle.Proofs.Shared.Faithful
import Throttle.Proofs.Shared.Tally
import Throttle.Proofs.Shared.Increment
import Throttle.Proofs.Limiter.Books
import Throttle.Proofs.Limiter.Agreement
import Throttle.Proofs.Limiter.Fleet
import Throttle.Proofs.Limiter.Degraded
import Throttle.Proofs.Shared.Observed
import Throttle.Proofs.Limiter.Answer
import Throttle.Proofs.Limiter.Hint
import Throttle.Proofs.Limiter.ClockEnd
import Throttle.Proofs.Limiter.Stopping
import Throttle.Proofs.Limiter.Lifetime
import Throttle.Proofs.Limiter.Balance
import Throttle.Proofs.Limiter.Countdown
import Throttle.Proofs.Settings.Effective
import Throttle.Proofs.Settings.Image
import Throttle.Proofs.Settings.Coercion
import Throttle.Proofs.Limiter.Decision
import Throttle.Proofs.Http.Guard
import Throttle.Proofs.Http.Discretion
import Throttle.Proofs.Limiter.Secrecy
import Throttle.Proofs.Database.Script
import Throttle.Proofs.Database.Window
import Throttle.Proofs.Settings.Layers
import Throttle.Proofs.Json.RoundTrip
import Throttle.Proofs.Settings.Serialized
import Throttle.Proofs.Database.Lifecycle
import Throttle.Proofs.Limiter.Identity
import Throttle.Proofs.Namespace
import Throttle.Proofs.Http.Client
import Throttle.Proofs.Http.Envelope
import Throttle.Proofs.Database.Url
import Throttle.Proofs.Cli.Arguments
import Throttle.Proofs.Cli.Text
import Throttle.Proofs.Settings.Files
