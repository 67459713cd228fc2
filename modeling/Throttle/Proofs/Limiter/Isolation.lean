import Throttle.Proofs.Limiter.InMemory
import Throttle.Proofs.Limiter.Outline
import Throttle.Shared.Scripted

/-!
# Isolation of clients

In memory, the answers to a client's requests of one method depend on nothing but when it asks: they
are those of a store of its own.  Other clients and methods, starts, stops, ticks and sweeps do not
matter, nor does how often the sweep task sweeps.
-/

namespace Throttle

/-- When a key is asked for, in order. -/
def callsOf {κ : Type} (key : CounterKey) (actions : List (TimedAction κ)) : List Nat :=
  actions.filterMap fun timed => if timed.action.key? = some key then some timed.time else none

namespace Session

variable {κ : Type} [SharedCounter κ]

/-- The answers to the requests for a key, newest first. -/
def verdictsOf (key : CounterKey) (session : Session κ) : List Verdict :=
  session.verdicts.filter fun verdict => decide (verdict.key = key)

omit [SharedCounter κ] in
/-- The checks of the name of a key are the calls for it. -/
theorem filter_isCheckOf_check? (settings : Settings) {key : CounterKey}
    (hkey : HasNoColon key.method) (actions : List (TimedAction κ)) (hcolons : NoColons actions) :
    (actions.filterMap (·.check? settings)).filter (·.isCheckOf key.localName) =
      (callsOf key actions).map (settings.checkOf · key) := by
  induction actions with
  | nil => rfl
  | cons timed actions ih =>
      have hrest := ih fun other hother => hcolons other (List.mem_cons_of_mem _ hother)
      rw [callsOf] at hrest ⊢
      cases hother : timed.action.key? with
      | none =>
          rw [List.filterMap_cons_none (by simp [TimedAction.check?, hother]), hrest,
            List.filterMap_cons_none (by simp [hother])]
      | some other =>
          have hname : (other.localName == key.localName) = decide (other = key) :=
            CounterKey.localName_beq (hcolons.key (by simp) hother) hkey
          rw [List.filterMap_cons_some (by simp [TimedAction.check?, hother]; rfl)]
          by_cases hsame : other = key
          · subst hsame
            rw [List.filter_cons_of_pos (by simp [Settings.checkOf, Store.Step.isCheckOf]), hrest,
              List.filterMap_cons_some (by simp [hother]; rfl), List.map_cons]
          · rw [List.filter_cons_of_neg
                (by simpa [Settings.checkOf, Store.Step.isCheckOf, hname] using hsame), hrest,
              List.filterMap_cons_none (by simp [hother, hsame])]

omit [SharedCounter κ] in
/-- In a run of the store that has the checks of a session, those of a name are the calls for its
key. -/
theorem filter_isCheckOf_of_checks {settings : Settings} {key : CounterKey}
    (hkey : HasNoColon key.method) {actions : List (TimedAction κ)} (hcolons : NoColons actions)
    {steps : List Store.Step}
    (hchecks : steps.filter (·.isCheck) = actions.filterMap (·.check? settings)) :
    steps.filter (·.isCheckOf key.localName) =
      (callsOf key actions).map (settings.checkOf · key) := by
  rw [← filter_isCheckOf_check? settings hkey actions hcolons, ← hchecks, List.filter_filter]
  refine List.filter_congr fun step _ => ?_
  cases step <;> simp [Store.Step.isCheckOf, Store.Step.isCheck]

section Alone

variable (settings : Settings) (counter : κ) (sweepInterval : Nat) (actions : List (TimedAction κ))
  {key : CounterKey}

/-- The answers to a pair's requests are those of a store of its own. -/
theorem map_record_verdictsOf (hmemory : settings.usesShared = false) (horder : InOrder actions)
    (hcolons : NoColons actions) (hkey : HasNoColon key.method) :
    (((ofSettings settings counter sweepInterval).run actions).verdictsOf key).map
        (·.record settings) =
      (Store.Log.run ((callsOf key actions).map (settings.checkOf · key))).records := by
  obtain ⟨steps, hmirrors, hchecks, -, htimely⟩ :=
    mirrors_run settings hmemory counter sweepInterval actions horder
  rw [← filter_isCheckOf_of_checks hkey hcolons hchecks,
    (Store.run_filter_isCheckOf key.localName steps htimely).1, hmirrors.records_eq, verdictsOf,
    List.filter_map]
  refine congrArg _ (List.filter_congr fun verdict hverdict => ?_)
  have hname := CounterKey.localName_beq (hasNoColon_of_mem_verdicts hcolons verdict hverdict) hkey
  exact hname.symm

/-- A pair's requests are answered one by one, when they come. -/
theorem map_time_verdictsOf (hmemory : settings.usesShared = false) (horder : InOrder actions)
    (hcolons : NoColons actions) (hkey : HasNoColon key.method) :
    (((ofSettings settings counter sweepInterval).run actions).verdictsOf key).map (·.time) =
      (callsOf key actions).reverse := by
  have hrecords := map_record_verdictsOf settings counter sweepInterval actions hmemory horder
    hcolons hkey
  have hchecks : ((callsOf key actions).map (settings.checkOf · key)).filter (·.isCheck) =
      (callsOf key actions).map (settings.checkOf · key) :=
    List.filter_eq_self.2 fun step hstep => by
      obtain ⟨time, -, rfl⟩ := List.mem_map.1 hstep
      rfl
  have htimes := congrArg (List.map Store.Step.time)
    (Store.records_map_step ((callsOf key actions).map (settings.checkOf · key)))
  rw [hchecks, ← hrecords] at htimes
  simpa [Function.comp_def, Store.Record.step, Store.Step.time, Verdict.record,
    Settings.checkOf] using htimes

end Alone

/-- Two sessions in which a client and a method are asked for at the same times answer them alike,
whatever else they do and however often they sweep. -/
theorem answers_eq_of_callsOf_eq (settings : Settings) (hmemory : settings.usesShared = false)
    (counter counter' : κ) (sweepInterval sweepInterval' : Nat)
    (actions actions' : List (TimedAction κ)) (horder : InOrder actions)
    (horder' : InOrder actions') (hcolons : NoColons actions) (hcolons' : NoColons actions')
    (method client : String) (hmethod : HasNoColon method)
    (hcalls : callsOf (.of client method) actions = callsOf (.of client method) actions') :
    let verdicts := ((ofSettings settings counter sweepInterval).run actions).verdictsOf
      (.of client method)
    let verdicts' := ((ofSettings settings counter' sweepInterval').run actions').verdictsOf
      (.of client method)
    verdicts.map (·.time) = (callsOf (.of client method) actions).reverse ∧
      verdicts.map (·.answer) = verdicts'.map (·.answer) := by
  intro verdicts verdicts'
  have hkey : HasNoColon (CounterKey.of client method).method := hmethod.normalMethod
  refine ⟨map_time_verdictsOf settings counter sweepInterval actions hmemory horder hcolons hkey,
    ?_⟩
  have hrecords := map_record_verdictsOf settings counter sweepInterval actions hmemory horder
    hcolons hkey
  have hrecords' := map_record_verdictsOf settings counter' sweepInterval' actions' hmemory
    horder' hcolons' hkey
  have hsame := congrArg (List.map Store.Record.answer)
    (hrecords.trans ((congrArg _ (by rw [hcalls])).trans hrecords'.symm))
  rw [List.map_map, List.map_map] at hsame
  exact hsame

/-- A client that asks three times with a limit of one is answered alike whether it is alone with a
limiter that never starts, or shares one that is started, swept and stopped with others. -/
theorem answers_eq_of_callsOf_eq_alone :
    let settings : Settings := { (default : Settings) with mode := .memory, read := ⟨1, 1⟩ }
    let alone : List (TimedAction Scripted) :=
      [⟨0, .request "GET" "a"⟩, ⟨1000000000, .request "GET" "a"⟩, ⟨1000000001, .request "GET" "a"⟩]
    let shared : List (TimedAction Scripted) :=
      [⟨0, .start⟩, ⟨0, .request "get" " a "⟩, ⟨7, .request "GET" "b"⟩, ⟨8, .request "POST" "a"⟩,
        ⟨1000000000, .request "GET" "a"⟩, ⟨1000000000, .sweep⟩, ⟨1000000001, .tick⟩,
        ⟨1000000001, .request "GET" "a"⟩, ⟨1000000002, .stop⟩]
    let key := CounterKey.of "a" "GET"
    settings.usesShared = false ∧ InOrder alone ∧ InOrder shared ∧ NoColons alone ∧
      NoColons shared ∧ HasNoColon "GET" ∧ callsOf key alone = callsOf key shared ∧
      callsOf key alone = [0, 1000000000, 1000000001] ∧
      (((ofSettings settings {} 1).run alone).verdictsOf key).map (·.answer) =
        (((ofSettings settings {} 5).run shared).verdictsOf key).map (·.answer) := by
  intro settings alone shared key
  have hmemory : settings.usesShared = false := by decide
  have horder : InOrder alone := by decide
  have horder' : InOrder shared := by decide
  have hcolons : NoColons alone := by decide
  have hcolons' : NoColons shared := by decide
  have hmethod : HasNoColon "GET" := by decide
  have hcalls : callsOf key alone = callsOf key shared := by decide
  have hanswers := (answers_eq_of_callsOf_eq settings hmemory {} {} 1 5 alone shared horder
    horder' hcolons hcolons' "GET" "a" hmethod hcalls).2
  exact ⟨hmemory, horder, horder', hcolons, hcolons', hmethod, hcalls, by decide, hanswers⟩

end Session

end Throttle
