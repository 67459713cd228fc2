import Throttle.Proofs.Limiter.InMemory
import Throttle.Proofs.Limiter.Outline
import Throttle.Proofs.Settings.Bounds
import Throttle.Proofs.Store.Quota
import Throttle.Shared.Scripted

/-!
# Quotas of clients

A limiter that counts in memory lets a client through at most twice as often in any interval as long
as a window as its limit says, and at most as often as its limit says from one opening of a window
to the next.
-/

namespace Throttle

section Record

variable {settings : Settings} {key : CounterKey} {verdict : Verdict}

theorem isAllowedOf_record (hkey : HasNoColon key.method)
    (hverdict : HasNoColon verdict.key.method) :
    (verdict.record settings).isAllowedOf key.localName = verdict.isAllowedOf key := by
  rw [Store.Record.isAllowedOf, Verdict.isAllowedOf, Verdict.record,
    CounterKey.localName_beq hverdict hkey]
  rfl

theorem isAllowedIn_record (hkey : HasNoColon key.method) (hverdict : HasNoColon verdict.key.method)
    (first last : Nat) :
    (verdict.record settings).isAllowedIn key.localName first last =
      verdict.isAllowedIn key first last := by
  rw [Store.Record.isAllowedIn, Verdict.isAllowedIn, isAllowedOf_record hkey hverdict]
  rfl

theorem opens_record (hkey : HasNoColon key.method) (hverdict : HasNoColon verdict.key.method) :
    (verdict.record settings).opens key.localName = verdict.opens key := by
  rw [Store.Record.opens, Verdict.opens, Verdict.record, CounterKey.localName_beq hverdict hkey]

/-- The records of the requests for a method and a client all have the limit and the window of the
method. -/
theorem policy_of_record {method client : String} (hmethod : HasNoColon method)
    (hverdict : HasNoColon verdict.key.method)
    (hname : (verdict.record settings).key = (CounterKey.of client method).localName) :
    (verdict.record settings).limit = (settings.policy (.of method)).limit.toNat ∧
      (verdict.record settings).window = (settings.policy (.of method)).window := by
  have hkey : HasNoColon (CounterKey.of client method).method := hmethod.normalMethod
  have hsame : verdict.key = .of client method := (CounterKey.localName_inj hverdict hkey).1 hname
  have hclass : MethodClass.of verdict.key.method = MethodClass.of method := by
    rw [hsame]
    exact MethodClass.of_normalMethod method
  simp only [Verdict.record, hclass, and_self]

/-- Counting records is counting the answers that they are of. -/
theorem countP_record {verdicts : List Verdict} {p : Store.Record → Bool} {q : Verdict → Bool}
    (hsame : ∀ verdict ∈ verdicts, p (verdict.record settings) = q verdict) :
    (verdicts.map (·.record settings)).countP p = verdicts.countP q := by
  rw [List.countP_map]
  exact List.countP_congr fun verdict hverdict => by simp [hsame verdict hverdict]

end Record

namespace Session

variable {κ : Type} [SharedCounter κ]

omit [SharedCounter κ] in
/-- If the windows of all requests fit, then those of the checks that are made for them do. -/
theorem fits_of_windowsFit {settings : Settings} {actions : List (TimedAction κ)}
    (hfit : WindowsFit settings actions) {steps : List Store.Step}
    (hchecks : steps.filter (·.isCheck) = actions.filterMap (·.check? settings)) :
    Store.Fits steps := by
  intro step hstep
  cases step with
  | sweep time => rfl
  | check time key limit window =>
      have hmem : .check time key limit window ∈ actions.filterMap (·.check? settings) := by
        rw [← hchecks]
        exact List.mem_filter.2 ⟨hstep, rfl⟩
      obtain ⟨timed, htimed, hcheck⟩ := List.mem_filterMap.1 hmem
      obtain ⟨key, hkey, hcheck⟩ := Option.map_eq_some_iff.1 hcheck
      obtain ⟨⟨method, client⟩, hrequest, rfl⟩ := Option.map_eq_some_iff.1 hkey
      have hclass : MethodClass.of (CounterKey.of client method).method = MethodClass.of method :=
        MethodClass.of_normalMethod method
      dsimp only [Settings.checkOf] at hcheck
      rw [Store.Step.check.injEq, hclass] at hcheck
      obtain ⟨rfl, -, -, rfl⟩ := hcheck
      simpa [Store.Step.fits] using hfit timed htimed _ hrequest

/-- The quota of a client and a method, in memory.  The answers come newest first; a stretch of them
in which no window is opened but by its earliest lies between two openings. -/
theorem sliding_quota (source : Source) (counter : κ) (sweepInterval : Nat)
    (actions : List (TimedAction κ)) (method client : String)
    (hmemory : (Settings.resolve source).value.usesShared = false) (horder : InOrder actions)
    (hcolons : NoColons actions) (hfit : WindowsFit (Settings.resolve source).value actions)
    (hmethod : HasNoColon method) :
    let settings := (Settings.resolve source).value
    let policy := settings.policy (.of method)
    let key := CounterKey.of client method
    let verdicts := ((ofSettings settings counter sweepInterval).run actions).verdicts
    (∀ start, verdicts.countP (·.isAllowedIn key start (start + policy.window)) ≤
      2 * policy.limit.toNat) ∧
    ∀ later stretch earlier, verdicts = later ++ (stretch ++ earlier) →
      (∀ verdict ∈ stretch.dropLast, verdict.opens key = false) →
        stretch.countP (·.isAllowedOf key) ≤ policy.limit.toNat := by
  intro settings policy key verdicts
  obtain ⟨steps, hmirrors, hchecks, -, htimely⟩ :=
    mirrors_run settings hmemory counter sweepInterval actions horder
  have hrecords := hmirrors.records_eq
  have hkey : HasNoColon key.method := hmethod.normalMethod
  have hverdicts : ∀ verdict ∈ verdicts, HasNoColon verdict.key.method :=
    hasNoColon_of_mem_verdicts hcolons
  have hpolicy : ∀ record ∈ (Store.Log.run steps).records, record.key = key.localName →
      record.limit ≤ policy.limit.toNat ∧ record.window = policy.window := by
    rw [hrecords]
    intro record hrecord hname
    obtain ⟨verdict, hverdict, rfl⟩ := List.mem_map.1 hrecord
    obtain ⟨hlimit, hwindow⟩ := policy_of_record hmethod (hverdicts verdict hverdict) hname
    exact ⟨Nat.le_of_eq hlimit, hwindow⟩
  obtain ⟨hsliding, hstretch⟩ := Store.quota_run (Settings.resolve_limit_pos source (.of method))
    steps htimely (fits_of_windowsFit hfit hchecks) hpolicy
  rw [hrecords] at hsliding hstretch
  refine ⟨fun start => ?_, fun later stretch earlier hsplit hone => ?_⟩
  · have hcount := hsliding start
    rw [Store.allowedIn, countP_record fun verdict hverdict =>
      isAllowedIn_record hkey (hverdicts verdict hverdict) ..] at hcount
    exact hcount
  · have hmem : ∀ verdict ∈ stretch, HasNoColon verdict.key.method := by
      intro verdict hverdict
      refine hverdicts verdict ?_
      rw [hsplit]
      exact List.mem_append_right _ (List.mem_append_left _ hverdict)
    have hcount := hstretch (later.map (·.record settings)) (stretch.map (·.record settings))
      (earlier.map (·.record settings))
      (by rw [← List.map_append, ← List.map_append, ← hsplit]) ?_
    · rw [countP_record fun verdict hverdict => isAllowedOf_record hkey (hmem verdict hverdict)]
        at hcount
      exact hcount
    · rw [← List.map_dropLast]
      intro record hrecord
      obtain ⟨verdict, hverdict, rfl⟩ := List.mem_map.1 hrecord
      rw [opens_record hkey (hmem verdict (List.dropLast_subset stretch hverdict))]
      exact hone verdict hverdict

/-- With a limit of two, three requests are let through around the end of a window. -/
theorem sliding_quota_around_closing :
    let source : Source := .ofList
      [("RATE_LIMIT_STORE", "memory"), ("RATE_LIMIT_GET_MAX", "2"), ("RATE_LIMIT_GET_WINDOW", "1")]
    let actions : List (TimedAction Scripted) :=
      [⟨0, .start⟩, ⟨0, .request "GET" "a"⟩, ⟨1000000000, .request "get " "a"⟩,
        ⟨1000000000, .sweep⟩, ⟨1000000001, .request "GET" " a"⟩,
        ⟨1000000001, .request "POST" "a"⟩, ⟨1000000001, .stop⟩,
        ⟨1000000002, .request "GET" "a"⟩, ⟨1000000003, .request "GET" "a"⟩]
    let policy := (Settings.resolve source).value.policy (.of "GET")
    let verdicts := ((ofSettings (Settings.resolve source).value {} 5).run actions).verdicts
    (Settings.resolve source).value.usesShared = false ∧ InOrder actions ∧ NoColons actions ∧
      WindowsFit (Settings.resolve source).value actions ∧ HasNoColon "GET" ∧
      verdicts.countP (·.isAllowedIn (.of "a" "GET") 1000000000 (1000000000 + policy.window)) = 3 ∧
      verdicts.countP (·.isAllowedIn (.of "a" "GET") 1000000000 (1000000000 + policy.window)) ≤
        2 * policy.limit.toNat := by
  intro source actions policy verdicts
  have hmemory : (Settings.resolve source).value.usesShared = false := by decide
  have horder : InOrder actions := by decide
  have hcolons : NoColons actions := by decide
  have hfit : WindowsFit (Settings.resolve source).value actions := by decide
  have hmethod : HasNoColon "GET" := by decide
  have hquota := (sliding_quota source {} 5 actions "GET" "a" hmemory horder hcolons hfit hmethod).1
  exact ⟨hmemory, horder, hcolons, hfit, hmethod, by decide +kernel, hquota 1000000000⟩

end Session

end Throttle
