import Mathlib.Data.List.Forall2
import Throttle.Proofs.Http.Client
import Throttle.Proofs.Http.Guard
import Throttle.Proofs.Json.RoundTrip
import Throttle.Text.Uuid

/-!
# The envelope of a rejection

The status and the seconds to wait are told twice, in front of the body and in it, and the name of
the request may be any text that its sender chose.  Main statement: the body is read as an object of
the same six fields whatever that text is, and both places tell the same.
-/

namespace Throttle

/-! ## Random names -/

namespace Text

/-- A character fits a place of a pattern: an `x` stands for any hexadecimal digit with a small
letter, a `y` for one of those that tell the variant, and anything else for itself. -/
def FitsPlace (place c : Char) : Prop :=
  if place = 'x' then c ∈ "0123456789abcdef".toList
  else if place = 'y' then c ∈ "89ab".toList
  else c = place

instance (place c : Char) : Decidable (FitsPlace place c) :=
  inferInstanceAs (Decidable (ite _ _ (ite _ _ _)))

/-- The form of a random name. -/
def IsUuid (name : String) : Prop :=
  List.Forall₂ FitsPlace "xxxxxxxx-xxxx-4xxx-yxxx-xxxxxxxxxxxx".toList name.toList

theorem fitsPlace_hexDigit {n : Nat} (hn : n < 16) : FitsPlace 'x' (hexDigit n).toLower := by
  have hall : ∀ n < 16, FitsPlace 'x' (hexDigit n).toLower := by decide +kernel
  exact hall n hn

theorem forall₂_hexDigits (n width : Nat) :
    List.Forall₂ FitsPlace (List.replicate width 'x') (hexDigits n width) := by
  induction width generalizing n with
  | zero => exact .nil
  | succ width ih =>
      rw [List.replicate_succ', hexDigits]
      have hlast := fitsPlace_hexDigit (Nat.mod_lt n (by decide : 16 > 0))
      exact List.rel_append (ih (n / 16)) (.cons hlast .nil)

/-- The first of the digits is the one that stands for the most. -/
theorem hexDigits_succ (n width : Nat) :
    hexDigits n (width + 1) =
      (hexDigit (n / 16 ^ width % 16)).toLower :: hexDigits n width := by
  induction width generalizing n with
  | zero => simp [hexDigits]
  | succ width ih =>
      rw [hexDigits, ih, hexDigits, Nat.div_div_eq_div_mul, ← Nat.pow_succ', List.cons_append]

theorem toList_uuid (n : Nat) :
    (uuid n).toList =
      hexDigits (n / 2 ^ 90) 8 ++ '-' :: (hexDigits (n / 2 ^ 74) 4 ++ '-' ::
        (hexDigits (0x4000 + n / 2 ^ 62 % 2 ^ 12) 4 ++ '-' ::
          (hexDigits (0x8000 + n / 2 ^ 48 % 2 ^ 14) 4 ++ '-' :: hexDigits n 12))) := by
  simp [uuid, String.intercalate_cons_cons]

theorem forall₂_version (n : Nat) :
    List.Forall₂ FitsPlace ('4' :: List.replicate 3 'x')
      (hexDigits (0x4000 + n % 2 ^ 12) 4) := by
  have hversion : (0x4000 + n % 2 ^ 12) / 16 ^ 3 % 16 = 4 := by omega
  rw [hexDigits_succ, hversion]
  exact .cons (by decide) (forall₂_hexDigits _ 3)

theorem forall₂_variant (n : Nat) :
    List.Forall₂ FitsPlace ('y' :: List.replicate 3 'x')
      (hexDigits (0x8000 + n % 2 ^ 14) 4) := by
  have hall : ∀ d < 4, FitsPlace 'y' (hexDigit (8 + d)).toLower := by decide +kernel
  have hvariant : (0x8000 + n % 2 ^ 14) / 16 ^ 3 % 16 = 8 + n % 2 ^ 14 / 16 ^ 3 := by omega
  rw [hexDigits_succ, hvariant]
  exact .cons (hall _ (by omega)) (forall₂_hexDigits _ 3)

theorem isUuid_uuid (n : Nat) : IsUuid (uuid n) := by
  have hpattern : "xxxxxxxx-xxxx-4xxx-yxxx-xxxxxxxxxxxx".toList =
      List.replicate 8 'x' ++ '-' :: (List.replicate 4 'x' ++ '-' ::
        (('4' :: List.replicate 3 'x') ++ '-' ::
          (('y' :: List.replicate 3 'x') ++ '-' :: List.replicate 12 'x'))) := by
    decide
  rw [IsUuid, hpattern, toList_uuid]
  refine List.rel_append (forall₂_hexDigits _ 8) (.cons (by decide) ?_)
  refine List.rel_append (forall₂_hexDigits _ 4) (.cons (by decide) ?_)
  refine List.rel_append (forall₂_version _) (.cons (by decide) ?_)
  refine List.rel_append (forall₂_variant _) (.cons (by decide) ?_)
  exact forall₂_hexDigits n 12

end Text

/-! ## Rejections -/

namespace Http

section Rejection

variable (violation : Violation) (requestId timestamp : String)

theorem body_rejection :
    (Response.rejection violation requestId timestamp).body =
      (Response.rejectionBody violation requestId timestamp).write := rfl

/-- A body reads back as it was meant, whatever the texts in it are. -/
theorem isPlain_rejectionBody (hseconds : violation.retryAfter < 2 ^ 64) :
    (Response.rejectionBody violation requestId timestamp).IsPlain := by
  have hnat : ∀ n < 2 ^ 64, (Json.nat n).IsPlain := fun n hn => .int (by omega) (by omega)
  apply Json.IsPlain.object
  simp only [List.forall_mem_cons, List.not_mem_nil, false_imp_iff, implies_true, and_true]
  have hstatus : violation.status < 2 ^ 64 := by
    cases violation with
    | quotaExceeded seconds => exact (by decide : 429 < 2 ^ 64)
    | backendUnavailable seconds => exact (by decide : 503 < 2 ^ 64)
  exact ⟨hnat _ hstatus, .text _, .text _, hnat _ hseconds, .text _, .text _⟩

/-- One more header leaves those with another name as they were. -/
theorem filter_headers_withHeader {name other : String} (hne : other ≠ name) (response : Response)
    (value : String) :
    (response.withHeader other value).headers.filter (·.1 == name) =
      response.headers.filter (·.1 == name) := by
  unfold Response.withHeader
  split
  · rfl
  · rw [List.partition_eq_filter_filter]
    dsimp only
    rw [List.filter_append, List.filter_cons_of_neg (by simpa using hne)]
    simp only [List.filter_comm fun header : String × String => header.1 == name]
    have hnamed : ∀ header ∈ response.headers.filter (·.1 == name), header.1 = name :=
      fun header hheader => by simpa using (List.mem_filter.1 hheader).2
    generalize response.headers.filter (·.1 == name) = headers at hnamed
    have hside : ∀ header ∈ headers, decide (header.1 < other) = decide (name < other) :=
      fun header hheader => by rw [hnamed header hheader]
    -- Those with the name all stand before the new one, or all after it.
    cases hbefore : decide (name < other) with
    | true =>
        rw [List.filter_eq_self.2, List.filter_eq_nil_iff.2, List.append_nil]
        · intro header hheader
          rw [Function.comp_apply, hside header hheader, hbefore]
          decide
        · intro header hheader
          rw [hside header hheader, hbefore]
    | false =>
        rw [List.filter_eq_nil_iff.2, List.filter_eq_self.2, List.nil_append]
        · intro header hheader
          rw [Function.comp_apply, hside header hheader, hbefore]
          rfl
        · intro header hheader
          rw [hside header hheader, hbefore]
          decide

/-- Nothing that is done to a response before it is sent tells another time to wait. -/
theorem filter_headers_sent (request : Request) (response : Response) {name : String}
    (hne : name ≠ "allow") :
    (sent request response).headers.filter (·.1 == name) =
      response.headers.filter (·.1 == name) := by
  unfold sent
  dsimp only
  split <;> split <;> simp only [filter_headers_withHeader hne.symm]

theorem body_sent {request : Request} (hmethod : request.method ≠ "HEAD") (response : Response) :
    (sent request response).body = response.body := by
  unfold sent
  dsimp only
  rw [if_neg (by simpa using hmethod)]
  split
  · unfold Response.withHeader
    split <;> rfl
  · rfl

end Rejection

theorem requestId_cases (request : Request) (other : String) :
    (∃ value raw, IsFirstLine request.headers "x-request-id" value ∧ Says value raw ∧
      Text.trim raw ≠ "" ∧ request.requestId?.getD other = Text.trim raw) ∨
    ((∀ value raw, IsFirstLine request.headers "x-request-id" value → Says value raw →
      Text.trim raw = "") ∧ request.requestId?.getD other = other) := by
  cases hname : request.requestId? with
  | some name =>
      obtain ⟨value, raw, hfirst, hsays, rfl, hne⟩ := headerText?_eq_some_iff.1 hname
      exact .inl ⟨value, raw, hfirst, hsays, hne, rfl⟩
  | none =>
      refine .inr ⟨fun value raw hfirst hsays => ?_, rfl⟩
      by_contra hne
      have hsome := headerText?_eq_some_iff.2 ⟨value, raw, hfirst, hsays, rfl, hne⟩
      exact Option.some_ne_none _ (hsome.symm.trans hname)

/-- A rejection tells one status, and one time to wait, in front of its body and in it.  The body
reads as an object of six fields, which are the same for all requests but for the last one: the name
that the sender gave in the first line for it, if that can be read and more than blanks is in it,
and otherwise a random name.  The rejection is sent as it is, only without its body if the request
asks for none. -/
theorem rejection_reads_back {κ : Type} (violation : Violation)
    (hseconds : violation.retryAfter < 2 ^ 64) (request : Request) (timestamp : String) (n : Nat) :
    let requestId := request.requestId?.getD (Text.uuid n)
    let rejection := Response.rejection violation requestId timestamp
    rejection.status = violation.status ∧
    rejection.headers.filter (·.1 == "retry-after") =
      [("retry-after", Decimal.natText violation.retryAfter)] ∧
    Json.read? rejection.body = some (.object [
      ("status", .nat rejection.status),
      ("message", .text violation.message),
      ("code", .text violation.code),
      ("retryAfter", .nat violation.retryAfter),
      ("timestamp", .text timestamp),
      ("requestId", .text requestId)]) ∧
    ((∃ value raw, IsFirstLine request.headers "x-request-id" value ∧ Says value raw ∧
        Text.trim raw ≠ "" ∧ requestId = Text.trim raw) ∨
      ((∀ value raw, IsFirstLine request.headers "x-request-id" value → Says value raw →
        Text.trim raw = "") ∧ requestId = Text.uuid n ∧ Text.IsUuid requestId)) ∧
    ∀ (handler : Limiter κ → Request → Response) (limiter : Limiter κ) (admission : Admission),
      admission.violation? = some violation →
        let told := (respond handler ⟨timestamp, Text.uuid n⟩ limiter request admission).1
        told.status = rejection.status ∧
        told.headers.filter (·.1 == "retry-after") =
          rejection.headers.filter (·.1 == "retry-after") ∧
        (request.method ≠ "HEAD" → told.body = rejection.body) := by
  intro requestId rejection
  have hstatus : rejection.status = violation.status := Response.status_rejection ..
  refine ⟨hstatus, rfl, ?_, ?_, fun handler limiter admission hviolation => ?_⟩
  · rw [body_rejection, Json.read?_write (isPlain_rejectionBody _ _ _ hseconds), hstatus]
    rfl
  · rcases requestId_cases request (Text.uuid n) with hgiven | ⟨hnone, hrandom⟩
    · exact .inl hgiven
    · refine .inr ⟨hnone, hrandom, ?_⟩
      show Text.IsUuid (request.requestId?.getD (Text.uuid n))
      rw [hrandom]
      exact Text.isUuid_uuid n
  · have htold : (respond handler ⟨timestamp, Text.uuid n⟩ limiter request admission).1 =
        sent request rejection := by
      rw [respond, hviolation]
    intro told
    rw [show told = _ from htold]
    exact ⟨status_sent request rejection, filter_headers_sent request rejection (by decide),
      fun hmethod => body_sent hmethod rejection⟩

/-- A name with quotes, backslashes and a tab in it, which looks as if it ended the body and began
another one. -/
theorem rejection_reads_back_with_quotes :
    let name := "a\"\x7d\t\\\x7b\"status\":200"
    let request : Request := { method := "GET", path := "/", headers := [
      ⟨"accept", [0x2A]⟩, ⟨"x-request-id", (" " ++ name ++ "\t").toUTF8.toList⟩,
      ⟨"x-request-id", [0x62]⟩] }
    let violation : Violation := .quotaExceeded (2 ^ 64 - 1)
    Json.read? (Response.rejection violation (request.requestId?.getD (Text.uuid 0)) "now").body =
      some (.object [("status", .nat 429), ("message", .text violation.message),
        ("code", .text "THROTTLED"), ("retryAfter", .nat 18446744073709551615),
        ("timestamp", .text "now"), ("requestId", .text name)]) := by
  intro name request violation
  have hname : request.requestId?.getD (Text.uuid 0) = name := by decide +kernel
  obtain ⟨-, -, hbody, -⟩ :=
    @rejection_reads_back Unit violation (by decide) request "now" 0
  rw [hbody, hname]
  rfl

end Http

end Throttle
