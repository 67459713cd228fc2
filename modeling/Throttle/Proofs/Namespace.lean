import Throttle.Http.Request
import Throttle.Proofs.Limiter.Session
import Throttle.Settings.Resolve
import Throttle.Shared.Scripted

/-!
# Prefixes of shared counters

Deployments that share a database keep their counters apart by prefixes.  The parts of a counter's
name are put together with colons, of which the last one divides the method from the rest; where the
prefix ends does not show.  Main statement: two prefixes keep all counters apart exactly if neither
is the other followed by a colon and by something with which the name of a client can begin.
-/

namespace Throttle

theorem eq_append_colon_iff {whole front rest : String} :
    whole = front ++ ":" ++ rest ↔ whole.toList = front.toList ++ ':' :: rest.toList := by
  rw [← String.toList_inj]
  simp

/-- A text that is divided at two colons is divided at one of them first. -/
theorem append_colon_eq_append_colon_iff {p q c d : List Char} :
    p ++ ':' :: c = q ++ ':' :: d ↔
      p = q ∧ c = d ∨ (∃ more, q = p ++ ':' :: more ∧ c = more ++ ':' :: d) ∨
        ∃ more, p = q ++ ':' :: more ∧ d = more ++ ':' :: c := by
  constructor
  · intro heq
    rcases List.append_eq_append_iff.1 heq with ⟨rest, hq, hrest⟩ | ⟨rest, hp, hrest⟩
    · cases rest with
      | nil => simp_all
      | cons colon more =>
          rw [List.cons_append, List.cons.injEq] at hrest
          exact .inr (.inl ⟨more, by rw [hq, hrest.1], hrest.2⟩)
    · cases rest with
      | nil => simp_all
      | cons colon more =>
          rw [List.cons_append, List.cons.injEq] at hrest
          exact .inr (.inr ⟨more, by rw [hp, hrest.1], hrest.2⟩)
  · rintro (⟨rfl, rfl⟩ | ⟨more, rfl, rfl⟩ | ⟨more, rfl, rfl⟩) <;> simp

namespace CounterKey

/-- Where two names in a shared counter are the same, the methods are, and one of the prefixes takes
up a part of the other's client. -/
theorem sharedName_eq_sharedName_iff {key key' : CounterKey} (hkey : HasNoColon key.method)
    (hkey' : HasNoColon key'.method) (p q : String) :
    key.sharedName p = key'.sharedName q ↔ key.method = key'.method ∧
      (p = q ∧ key.client = key'.client ∨
        (∃ more, q = p ++ ":" ++ more ∧ key.client = more ++ ":" ++ key'.client) ∨
          ∃ more, p = q ++ ":" ++ more ∧ key'.client = more ++ ":" ++ key.client) := by
  have hname : ∀ (key : CounterKey) (p : String), (key.sharedName p).toList =
      (p.toList ++ ':' :: key.client.toList) ++ ':' :: key.method.toList := by
    intro key p
    simp [sharedName, localName]
  have hmore : ∀ {p q c d : String}, (∃ more, q = p ++ ":" ++ more ∧ c = more ++ ":" ++ d) ↔
      ∃ more, q.toList = p.toList ++ ':' :: more ∧ c.toList = more ++ ':' :: d.toList := by
    intro p q c d
    simp only [eq_append_colon_iff]
    constructor
    · rintro ⟨more, hq, hc⟩
      exact ⟨more.toList, hq, hc⟩
    · rintro ⟨more, hq, hc⟩
      exact ⟨String.ofList more, by rwa [String.toList_ofList], by rwa [String.toList_ofList]⟩
  rw [hmore, hmore]
  simp only [← String.toList_inj, hname]
  rw [← append_colon_eq_append_colon_iff, and_comm]
  constructor
  · exact append_cons_inj_of_last hkey hkey'
  · rintro ⟨hfront, hmethod⟩
    rw [hfront, hmethod]

end CounterKey

/-- A prefix reaches into another one if that is the prefix, a colon and something with which the
name of a client can begin. -/
def ReachesInto (outer inner : String) : Prop :=
  ∃ more, inner = outer ++ ":" ++ more ∧ ∀ c ∈ more.toList.head?, Text.isBlank c = false

/-- A prefix that takes up a part of a client reaches into the other one. -/
theorem reachesInto_of_client {p q more client rest : String} (hmore : q = p ++ ":" ++ more)
    (hclient : Text.trim client = more ++ ":" ++ rest) : ReachesInto p q := by
  refine ⟨more, hmore, fun c hc => Text.head_trim client c ?_⟩
  rw [eq_append_colon_iff.1 hclient, List.head?_append, Option.mem_def.1 hc]
  rfl

/-- A prefix that reaches into another one does so for a client. -/
theorem ReachesInto.exists_client {p q : String} (hreaches : ReachesInto p q) (method : String) :
    ∃ client client', (CounterKey.of client method).sharedName p =
      (CounterKey.of client' method).sharedName q := by
  obtain ⟨more, hmore, hhead⟩ := hreaches
  -- The client keeps its first character, and ends in a letter, so that nothing is trimmed.
  have htrim : Text.trim (more ++ ":c") = more ++ ":c" := by
    refine Text.isTrimmed_of_ends ?_ ?_
    · intro c hc
      rw [String.toList_append, List.head?_append] at hc
      cases hfirst : more.toList.head? with
      | some first =>
          rw [hfirst] at hc
          exact hhead c (hfirst ▸ hc)
      | none =>
          rw [hfirst] at hc
          rw [← Option.some.inj hc]
          decide
    · intro c hc
      have hlast : (more ++ ":c").toList.getLast? = some 'c' := by simp
      rw [hlast] at hc
      rw [← Option.some.inj hc]
      decide
  refine ⟨more ++ ":c", "c", ?_⟩
  have hc : Text.trim "c" = "c" := by decide
  rw [CounterKey.of, CounterKey.of, htrim, hc, hmore]
  simp [CounterKey.sharedName, CounterKey.localName, ← String.toList_inj]

namespace Settings

/-- Two different prefixes keep the counters of all clients and methods apart exactly if neither
reaches into the other.  If one does, two requests share a counter exactly if their methods are the
same and the one client is what the longer prefix has in addition, a colon and the other client. -/
theorem keep_apart_iff (source source' : Source) :
    let p := (resolve source).value.keyPrefix
    let q := (resolve source').value.keyPrefix
    p ≠ q →
      ((∀ client client' method method', HasNoColon method → HasNoColon method' →
          (CounterKey.of client method).sharedName p ≠
            (CounterKey.of client' method').sharedName q) ↔
        ¬ ReachesInto p q ∧ ¬ ReachesInto q p) ∧
      ∀ client client' method method', HasNoColon method → HasNoColon method' →
        ((CounterKey.of client method).sharedName p =
            (CounterKey.of client' method').sharedName q ↔
          normalMethod method = normalMethod method' ∧
            ((∃ more, q = p ++ ":" ++ more ∧
                Text.trim client = more ++ ":" ++ Text.trim client') ∨
              ∃ more, p = q ++ ":" ++ more ∧
                Text.trim client' = more ++ ":" ++ Text.trim client)) := by
  intro p q hne
  have hshared : ∀ client client' method method', HasNoColon method → HasNoColon method' →
      ((CounterKey.of client method).sharedName p =
          (CounterKey.of client' method').sharedName q ↔
        normalMethod method = normalMethod method' ∧
          ((∃ more, q = p ++ ":" ++ more ∧ Text.trim client = more ++ ":" ++ Text.trim client') ∨
            ∃ more, p = q ++ ":" ++ more ∧
              Text.trim client' = more ++ ":" ++ Text.trim client)) := by
    intro client client' method method' hmethod hmethod'
    have hkey : HasNoColon (CounterKey.of client method).method := hmethod.normalMethod
    have hkey' : HasNoColon (CounterKey.of client' method').method := hmethod'.normalMethod
    have hnames := CounterKey.sharedName_eq_sharedName_iff hkey hkey' p q
    rwa [or_iff_right (fun hsame => hne hsame.1)] at hnames
  refine ⟨⟨fun hapart => ⟨?_, ?_⟩, ?_⟩, hshared⟩
  · intro hreaches
    obtain ⟨client, client', hsame⟩ := hreaches.exists_client "GET"
    exact hapart client client' "GET" "GET" (by decide) (by decide) hsame
  · intro hreaches
    obtain ⟨client, client', hsame⟩ := hreaches.exists_client "GET"
    exact hapart client' client "GET" "GET" (by decide) (by decide) hsame.symm
  · rintro ⟨hpq, hqp⟩ client client' method method' hmethod hmethod' hsame
    obtain ⟨-, ⟨more, hq, hclient⟩ | ⟨more, hp, hclient⟩⟩ :=
      (hshared client client' method method' hmethod hmethod').1 hsame
    · exact hpq (reachesInto_of_client hq hclient)
    · exact hqp (reachesInto_of_client hp hclient)

/-- A prefix that is only the beginning of another does not reach into it; one that is followed by a
colon does. -/
theorem keep_apart_iff_for_beginnings :
    let plain : Source := .ofList [("RATE_LIMIT_KEY_PREFIX", " a ")]
    let longer : Source := .ofList [("RATE_LIMIT_KEY_PREFIX", "ab")]
    let nested : Source := .ofList [("RATE_LIMIT_KEY_PREFIX", "a:b")]
    let p := (resolve plain).value.keyPrefix
    p ≠ (resolve longer).value.keyPrefix ∧ p ≠ (resolve nested).value.keyPrefix ∧
      (∀ client client' method method', HasNoColon method → HasNoColon method' →
        (CounterKey.of client method).sharedName p ≠
          (CounterKey.of client' method').sharedName (resolve longer).value.keyPrefix) ∧
      ∃ client client' method method', HasNoColon method ∧ HasNoColon method' ∧
        (CounterKey.of client method).sharedName p =
          (CounterKey.of client' method').sharedName (resolve nested).value.keyPrefix := by
  intro plain longer nested p
  have hplain : (resolve plain).value.keyPrefix = "a" := by decide +kernel
  have hlonger : (resolve longer).value.keyPrefix = "ab" := by decide +kernel
  have hnested : (resolve nested).value.keyPrefix = "a:b" := by decide +kernel
  have hne : (resolve plain).value.keyPrefix ≠ (resolve longer).value.keyPrefix := by
    rw [hplain, hlonger]
    decide
  have hne' : (resolve plain).value.keyPrefix ≠ (resolve nested).value.keyPrefix := by
    rw [hplain, hnested]
    decide
  have hmethod : HasNoColon "GET" := by decide
  have hmethod' : HasNoColon "get " := by decide
  refine ⟨hne, hne', (keep_apart_iff plain longer hne).1.2 ⟨?_, ?_⟩, "b:c", " c", "GET", "get ",
    hmethod, hmethod', ((keep_apart_iff plain nested hne').2 _ _ _ _ hmethod hmethod').2
      ⟨by decide, .inl ⟨"b", ?_, by decide⟩⟩⟩
  · rintro ⟨more, hmore, -⟩
    rw [hplain, hlonger, eq_append_colon_iff] at hmore
    simp at hmore
  · rintro ⟨more, hmore, -⟩
    rw [hplain, hlonger, eq_append_colon_iff] at hmore
    simp at hmore
  · rw [hplain, hnested]
    decide

/-- With the prefixes `a` and `a:b`, a client that calls itself `b:c` uses up the quota that `c` has
with the other deployment. -/
theorem nested_prefixes_share_counts :
    let source (keyPrefix : String) : Source := .ofList
      [("RATE_LIMIT_STORE", "shared"), ("RATE_LIMIT_GET_MAX", "1"),
        ("RATE_LIMIT_KEY_PREFIX", keyPrefix)]
    let settings (keyPrefix : String) := (resolve (source keyPrefix)).value
    let forged : Http.Request :=
      { method := "GET", path := "/", headers := [⟨"x-forwarded-for", [98, 58, 99]⟩] }
    let actions (client : String) : List (TimedAction Scripted) :=
      [⟨0, .start⟩, ⟨0, .notify .ready⟩, ⟨0, .request "GET" client⟩]
    let first := (Session.ofSettings (settings "a") {} 5).run (actions forged.client)
    let counter : Scripted := (first.limiter.shared.map (·.counter)).getD {}
    let second := (Session.ofSettings (settings "a:b") counter 5).run (actions "c")
    (settings "a").keyPrefix ≠ (settings "a:b").keyPrefix ∧
      (CounterKey.of forged.client "GET").sharedName (settings "a").keyPrefix =
        (CounterKey.of "c" "GET").sharedName (settings "a:b").keyPrefix ∧
      first.verdicts.map (·.answer) = [.ok .allowed] ∧
      second.verdicts.map (·.answer) = [.ok (.denied 60)] := by
  decide +kernel

end Settings

end Throttle
