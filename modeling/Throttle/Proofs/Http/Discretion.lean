import Throttle.Proofs.Http.Desk
import Throttle.Proofs.Key
import Throttle.Settings.Resolve
import Throttle.Shared.Scripted

/-!
# Responses tell nothing of the connection

Two limiters follow the same script, one with its own connection settings, its own prefix of the
names in the shared counter and its own errors and reasons.  Main statement: their answers and their
responses over HTTP are the same; of an error only that there was one shows.
-/

namespace Throttle

namespace Scripted

/-- What a script does with a counter. -/
inductive Cue where
  /-- The listener is told something. -/
  | emit (event : ConnectionEvent)
  /-- From now on every increment ends with an error, or none does. -/
  | fail (error : Option LimiterError)
  | delay (delay : Nat)
  | reply (answer : Except LimiterError SharedCount)
  | silence (silent : Bool)

def follow (counter : Scripted) : Cue → Scripted × List Signal
  | .emit event => (counter, counter.emit event)
  | .fail error => ({ counter with failure := error }, [])
  | .delay delay => ({ counter with delay }, [])
  | .reply answer => ({ counter with replies := counter.replies ++ [answer] }, [])
  | .silence silent => ({ counter with silentClose := silent }, [])

instance : BusyCounter Scripted where
  Happening := Cue
  happen cue counter _ := counter.follow cue

/-- Events of one kind, whatever their reasons. -/
inductive SameKind : ConnectionEvent → ConnectionEvent → Prop where
  | ready : SameKind .ready .ready
  | failed (reason reason' : String) : SameKind (.failed reason) (.failed reason')
  | closed : SameKind .closed .closed

/-- Cues that differ at most in errors and reasons. -/
inductive Cue.Alike : Cue → Cue → Prop where
  | emit {event event' : ConnectionEvent} (hkind : SameKind event event') :
      Alike (.emit event) (.emit event')
  | fail {error error' : Option LimiterError} (hsome : error.isSome = error'.isSome) :
      Alike (.fail error) (.fail error')
  | delay (delay : Nat) : Alike (.delay delay) (.delay delay)
  | reply {answer answer' : Except LimiterError SharedCount}
      (hanswers : SharedCount.Alike False answer answer') : Alike (.reply answer) (.reply answer')
  | silence (silent : Bool) : Alike (.silence silent) (.silence silent)

/-- Counters that do the same, each for names with its own prefix, with errors of their own. -/
structure AlikeUnder (p q : String) (left right : Scripted) : Prop where
  listening : left.listening = right.listening
  failure : left.failure.isSome = right.failure.isSome
  delay : left.delay = right.delay
  replies : List.Forall₂ (SharedCount.Alike False) left.replies right.replies
  silentClose : left.silentClose = right.silentClose
  counts : ∀ key : CounterKey,
    left.counts.get? (key.sharedName p) = right.counts.get? (key.sharedName q)

theorem alikeUnder_refl (p q : String) : AlikeUnder p q {} {} :=
  ⟨rfl, rfl, rfl, .nil, rfl, fun _ => rfl⟩

section AlikeUnder

variable {p q : String} {left right : Scripted}

theorem SameKind.alike {event event' : ConnectionEvent} (hkind : SameKind event event') :
    Signal.Alike False [.connection event] [.connection event'] := by
  refine ⟨fun before => ?_, False.elim⟩
  cases hkind <;> rfl

theorem AlikeUnder.count (halike : AlikeUnder p q left right) (key : CounterKey)
    (window now : Nat) :
    (count left.counts (key.sharedName p) window now).2 =
        (count right.counts (key.sharedName q) window now).2 ∧
      ∀ other : CounterKey,
        (count left.counts (key.sharedName p) window now).1.get? (other.sharedName p) =
          (count right.counts (key.sharedName q) window now).1.get? (other.sharedName q) := by
  have hwindow : windowOf left.counts (key.sharedName p) window now =
      windowOf right.counts (key.sharedName q) window now := by
    rw [windowOf, windowOf, halike.counts key]
  unfold Scripted.count
  dsimp only
  rw [hwindow]
  refine ⟨rfl, fun other => ?_⟩
  simp only [Table.get?_put, CounterKey.sharedName_eq_iff, halike.counts other]

theorem AlikeUnder.answer (halike : AlikeUnder p q left right) (key : CounterKey)
    (window now : Nat) :
    AlikeUnder p q (left.answer (key.sharedName p) window now).1
        (right.answer (key.sharedName q) window now).1 ∧
      SharedCount.Alike False (left.answer (key.sharedName p) window now).2
        (right.answer (key.sharedName q) window now).2 := by
  obtain ⟨hvalue, hcounts⟩ := halike.count key window now
  obtain ⟨hlistening, hfailure, hdelay, hreplies, hsilent, hbefore⟩ := halike
  obtain ⟨listening, failure, delay, replies, silentClose, counts, _, _, _⟩ := left
  obtain ⟨listening', failure', delay', replies', silentClose', counts', _, _, _⟩ := right
  dsimp only at *
  cases failure with
  | some error =>
      obtain ⟨error', rfl⟩ := Option.isSome_iff_exists.1 hfailure.symm
      exact ⟨⟨hlistening, rfl, hdelay, hreplies, hsilent, hbefore⟩, .error False.elim⟩
  | none =>
      obtain rfl := Option.not_isSome_iff_eq_none.1 (Bool.eq_false_iff.1 hfailure.symm)
      cases hreplies with
      | nil =>
          have hanswer : SharedCount.Alike False
              (.ok (Scripted.count counts (key.sharedName p) window now).2)
              (.ok (Scripted.count counts' (key.sharedName q) window now).2) := hvalue ▸ .ok _
          exact ⟨⟨hlistening, rfl, hdelay, .nil, hsilent, hcounts⟩, hanswer⟩
      | cons hreply hreplies => exact ⟨⟨hlistening, rfl, hdelay, hreplies, hsilent, hbefore⟩, hreply⟩

theorem AlikeUnder.follow (halike : AlikeUnder p q left right) {cue cue' : Cue}
    (hcue : cue.Alike cue') :
    AlikeUnder p q (left.follow cue).1 (right.follow cue').1 ∧
      Signal.Alike False (left.follow cue).2 (right.follow cue').2 := by
  have hsilence : Signal.Alike False [] [] := .of_eq rfl
  obtain ⟨hlistening, hfailure, hdelay, hreplies, hsilent, hcounts⟩ := halike
  cases hcue with
  | emit hkind =>
      refine ⟨⟨hlistening, hfailure, hdelay, hreplies, hsilent, hcounts⟩, ?_⟩
      show Signal.Alike False (left.emit _) (right.emit _)
      rw [emit, emit, hlistening]
      split
      · exact hkind.alike
      · exact hsilence
  | fail hsome => exact ⟨⟨hlistening, hsome, hdelay, hreplies, hsilent, hcounts⟩, hsilence⟩
  | delay delay => exact ⟨⟨hlistening, hfailure, rfl, hreplies, hsilent, hcounts⟩, hsilence⟩
  | reply hanswers =>
      exact ⟨⟨hlistening, hfailure, hdelay, List.rel_append hreplies (.cons hanswers .nil), hsilent,
        hcounts⟩, hsilence⟩
  | silence silent => exact ⟨⟨hlistening, hfailure, hdelay, hreplies, rfl, hcounts⟩, hsilence⟩

end AlikeUnder

end Scripted

/-- The likeness of limiters that differ only in how they reach the shared counter, in what they
call a key there and in the errors that they hear of. -/
def Likeness.discreet (p q : String) : Likeness Scripted where
  verbatim := False
  settings left right := left.SameRules right ∧ left.keyPrefix = p ∧ right.keyPrefix = q
  prefixes left right := left = p ∧ right = q
  counter := Scripted.AlikeUnder p q
  happening := Scripted.Cue.Alike
  sameRules hsettings := hsettings.1
  prefixes_of_settings hsettings := hsettings.2
  prefixes_eq := False.elim
  connect halike := ⟨⟨rfl, halike.failure, halike.delay, halike.replies, halike.silentClose,
    halike.counts⟩, fun _ => rfl, False.elim⟩
  disconnect halike := by
    refine ⟨⟨rfl, halike.failure, halike.delay, halike.replies, halike.silentClose,
      halike.counts⟩, ?_⟩
    show Signal.Alike False (if _ then _ else _) (if _ then _ else _)
    rw [halike.listening, halike.silentClose]
    exact .of_eq rfl
  begin key window halike hprefixes :=
    ⟨⟨halike.listening, halike.failure, halike.delay, halike.replies, halike.silentClose,
      halike.counts⟩, halike.delay⟩
  finish key window now halike hprefixes := by
    obtain ⟨rfl, rfl⟩ := hprefixes
    exact halike.answer key window now
  happen _ halike hcue := halike.follow hcue

/-- Limiters with the same rules that follow the same script give the same answers, and the same
responses over HTTP at the same time of day and with the same fresh names of requests, at the same
points.  Their connection settings, the prefixes of their names in the shared counter and the errors
and reasons that they hear of may be different ones. -/
theorem Desk.answers_without_connection (left right : Settings) (hrules : left.SameRules right)
    (counter counter' : Scripted)
    (hcounters : Scripted.AlikeUnder left.keyPrefix right.keyPrefix counter counter')
    (sweepInterval : Nat) (steps steps' : List (Desk.Step Scripted))
    (hsteps : List.Forall₂ (Desk.Step.Alike Scripted.Cue.Alike) steps steps') :
    let desk := (Desk.ofBuilt (Limiter.build left (some counter)) sweepInterval).run steps
    let desk' := (Desk.ofBuilt (Limiter.build right (some counter')) sweepInterval).run steps'
    desk.answers = desk'.answers ∧ desk.waiting = desk'.waiting := by
  intro desk desk'
  let like := Likeness.discreet left.keyPrefix right.keyPrefix
  have hsettings : like.settings left right := ⟨hrules, rfl, rfl⟩
  have hbuilt : like.Outcomes like.Limiters Eq (Limiter.build left (some counter))
      (Limiter.build right (some counter')) := Likeness.limiters_build hsettings (.some hcounters)
  have hrun := (Likeness.Desks.ofBuilt hbuilt sweepInterval).run hsteps
  exact ⟨hrun.answers, hrun.waiting⟩

/-- The connection is lost with an error of its own for each of two limiters, and they respond in
the same way while they report it differently. -/
theorem Desk.answers_without_connection_for_two_errors :
    let source : Source := .ofList [("RATE_LIMIT_STORE", "shared"), ("APP_ENV", "production")]
    let left := (Settings.resolve source).value
    let right : Settings :=
      { left with
        keyPrefix := "other"
        redis := { left.redis with host := "cache", port := 7000, password := some "p", tls := true } }
    let visit : Desk.Matter Scripted := .call (.web { method := "GET", path := "/status" })
    let story (error : LimiterError) (reason : String) : List (Desk.Step Scripted) :=
      [⟨0, .start⟩, ⟨0, .happen (.emit .ready)⟩, ⟨1, visit⟩, ⟨2, .happen (.fail (some error))⟩,
        ⟨3, visit⟩, ⟨4, .happen (.emit .ready)⟩, ⟨5, .happen (.emit (.failed reason))⟩, ⟨6, visit⟩]
    let steps := story (.backend "refused by localhost:6379") "reset by localhost"
    let steps' := story .notConnected "reset by cache"
    let desk := (Desk.ofBuilt (Limiter.build left (some ({} : Scripted))) 5).run steps
    let desk' := (Desk.ofBuilt (Limiter.build right (some ({} : Scripted))) 5).run steps'
    left.SameRules right ∧
      Scripted.AlikeUnder left.keyPrefix right.keyPrefix {} {} ∧
      List.Forall₂ (Desk.Step.Alike Scripted.Cue.Alike) steps steps' ∧
      desk.log ≠ desk'.log ∧
      desk.answers.map (fun answer => answer.response.map fun response =>
        (response default).1.status) = [some 200, some 503, some 503] ∧
      desk.answers = desk'.answers ∧ desk.waiting = desk'.waiting := by
  intro source left right visit story steps steps' desk desk'
  have hrules : left.SameRules right := left.sameRules_of_connection "other" rfl
  have hcounters := Scripted.alikeUnder_refl left.keyPrefix right.keyPrefix
  have hready : Scripted.Cue.Alike (.emit .ready) (.emit .ready) := .emit .ready
  have hsteps : List.Forall₂ (Desk.Step.Alike Scripted.Cue.Alike) steps steps' :=
    .cons ⟨rfl, .start⟩ (.cons ⟨rfl, .happen hready⟩ (.cons ⟨rfl, .call _⟩
      (.cons ⟨rfl, .happen (Scripted.Cue.Alike.fail rfl)⟩ (.cons ⟨rfl, .call _⟩
        (.cons ⟨rfl, .happen hready⟩
          (.cons ⟨rfl, .happen (Scripted.Cue.Alike.emit (.failed _ _))⟩
            (.cons ⟨rfl, .call _⟩ .nil)))))))
  have hanswers := Desk.answers_without_connection left right hrules {} {} hcounters 5 steps steps'
    hsteps
  exact ⟨hrules, hcounters, hsteps, by decide +kernel, by decide +kernel, hanswers⟩

end Throttle
