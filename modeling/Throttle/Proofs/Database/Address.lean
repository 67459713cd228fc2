import Throttle.Database.Address
import Throttle.Proofs.Percent

/-!
# Passwords in addresses

A password stands percent-encoded in the address of a database, before the last at-sign.  It has
none of the characters at which an address is taken apart, and reads back as a text.  Main
statement: whether and why an address cannot be used does not depend on the password, as long as it
is not empty; and an empty one makes no difference but to the reason, where no host is named.
-/

namespace Throttle

/-! ## Taking an address apart -/

namespace AddressParts

/-- What stands after one at-sign is divided as it would be without that. -/
theorem splitUser_append (front cs : List Char) :
    splitUser (front ++ '@' :: cs) =
      (some (front ++ (splitUser cs).1.elim [] ('@' :: ·)), (splitUser cs).2) := by
  have hreverse : (front ++ '@' :: cs).reverse = cs.reverse ++ '@' :: front.reverse := by simp
  have hsplit := List.takeWhile_append_dropWhile (p := (· != '@')) (l := cs.reverse)
  unfold splitUser
  dsimp only
  rw [hreverse, List.takeWhile_append]
  generalize hhost : cs.reverse.takeWhile (· != '@') = host at hsplit
  generalize cs.reverse.dropWhile (· != '@') = user at hsplit
  rw [← hsplit, List.drop_left]
  cases user with
  | nil =>
      -- There is no other at-sign.
      rw [List.append_nil] at hsplit ⊢
      have hcs : host.reverse = cs := by rw [hsplit, List.reverse_reverse]
      rw [if_pos rfl, List.takeWhile_cons_of_neg (by decide), List.append_nil, List.drop_left]
      simp [hcs]
  | cons c user =>
      have hlonger : host.length ≠ (host ++ c :: user).length := by simp
      rw [if_neg hlonger, List.append_assoc, List.drop_left]
      simp

/-- No character of a login divides an address, or is left out of it. -/
def IsLogin (front : List Char) : Prop :=
  ∀ c ∈ front, endsAuthority c = false ∧ c ≠ '\t' ∧ c ≠ '\n' ∧ c ≠ '\r'

/-- The parts of an address after a login and an at-sign; what stands before a later at-sign belongs
to the user. -/
def afterLogin? (cs : List Char) : Option AddressParts := do
  let cs := cs.filter fun c => !(c == '\t' || c == '\n' || c == '\r')
  let authority := cs.takeWhile fun c => !endsAuthority c
  let rest := cs.drop authority.length
  let (host, port) := splitHost false (splitUser authority).2
  guard (isHost host)
  guard (!host.isEmpty || port.isEmpty)
  let path := (← afterPort? port) ++ rest.takeWhile fun c => !(c == '?' || c == '#')
  let query := (rest.takeWhile (· != '#')).dropWhile (· != '?')
  let fragment := match rest.dropWhile (· != '#') with
    | [] => none
    | _ :: fragment => some fragment
  return { user := (splitUser authority).1.elim [] ('@' :: ·), host, path, query := query.drop 1,
           fragment }

/-- The parts of an address with a login; where no host is named, only a colon is one. -/
def withLogin? (front : List Char) (parts : AddressParts) : Option AddressParts := do
  guard (!parts.host.isEmpty || front ++ parts.user == [':'])
  return { parts with user := front ++ parts.user }

theorem read?_login {front : List Char} (hfront : IsLogin front) (place : List Char) :
    read? (front ++ '@' :: place) = (afterLogin? place).bind (withLogin? front) := by
  have hkept : (front ++ '@' :: place).filter (fun c => !(c == '\t' || c == '\n' || c == '\r')) =
      front ++ '@' :: place.filter fun c => !(c == '\t' || c == '\n' || c == '\r') := by
    rw [List.filter_append, List.filter_cons_of_pos (by decide), List.filter_eq_self.2]
    intro c hc
    obtain ⟨-, htab, hfeed, hreturn⟩ := hfront c hc
    simp [htab, hfeed, hreturn]
  unfold read? afterLogin?
  dsimp only
  rw [hkept]
  -- From here on both sides take the same characters apart, and the login goes with the user.
  generalize place.filter (fun c => !(c == '\t' || c == '\n' || c == '\r')) = place
  have hauthority : (front ++ '@' :: place).takeWhile (fun c => !endsAuthority c) =
      front ++ '@' :: place.takeWhile fun c => !endsAuthority c := by
    rw [List.takeWhile_append_of_pos, List.takeWhile_cons_of_pos (by decide)]
    intro c hc
    rw [(hfront c hc).1]
    rfl
  have hrest : (front ++ '@' :: place).drop
        (front ++ '@' :: place.takeWhile fun c => !endsAuthority c).length =
      place.drop (place.takeWhile fun c => !endsAuthority c).length := by
    rw [List.length_append, List.drop_length_add_append, List.length_cons, List.drop_succ_cons]
  rw [hauthority, hrest, splitUser_append]
  generalize place.takeWhile (fun c => !endsAuthority c) = authority
  generalize splitUser authority = divided
  obtain ⟨user, hostAndPort⟩ := divided
  dsimp only
  generalize splitHost false hostAndPort = divided
  obtain ⟨host, port⟩ := divided
  dsimp only
  cases isHost host with
  | false => rfl
  | true =>
      cases host with
      | cons c host =>
          cases afterPort? port <;> rfl
      | nil =>
          -- Without a host everything hangs on whether the user is a mere colon.
          cases port with
          | cons c port => rfl
          | nil => rfl

theorem withLogin?_of_host {parts : AddressParts} (hhost : parts.host ≠ []) (front : List Char) :
    withLogin? front parts = some { parts with user := front ++ parts.user } := by
  obtain ⟨user, host, path, query, fragment⟩ := parts
  cases host with
  | nil => exact absurd rfl hhost
  | cons c host => rfl

theorem withLogin?_of_hostless {parts : AddressParts} (hhost : parts.host = [])
    (front : List Char) :
    withLogin? front parts =
      if front ++ parts.user = [':'] then some { parts with user := front ++ parts.user }
      else none := by
  obtain ⟨user, host, path, query, fragment⟩ := parts
  obtain rfl : host = [] := hhost
  by_cases hcolon : front ++ user = [':']
  · rw [withLogin?, if_pos hcolon, hcolon]
    rfl
  · have hbeq : (front ++ user == [':']) = false := beq_false_of_ne hcolon
    rw [withLogin?, if_neg hcolon, hbeq]
    rfl

def encodedUser (user : Option String) : List Char :=
  user.elim [] fun user => Text.percentBytes user.toUTF8.toList

def login (user : Option String) (pass : String) : List Char :=
  encodedUser user ++ ':' :: Text.percentBytes pass.toUTF8.toList

theorem isPercentChar_of_mem_encodedUser {user : Option String} {c : Char}
    (hc : c ∈ encodedUser user) : Text.isPercentChar c = true := by
  cases user with
  | none => cases hc
  | some user => exact Text.isPercentChar_of_mem_percentBytes hc

theorem isLogin_login (user : Option String) (pass : String) : IsLogin (login user pass) := by
  have hpercent : ∀ c, Text.isPercentChar c = true →
      endsAuthority c = false ∧ c ≠ '\t' ∧ c ≠ '\n' ∧ c ≠ '\r' := by
    intro c hchar
    refine ⟨?_, ?_, ?_, ?_⟩
    · rw [Bool.eq_false_iff]
      intro hends
      simp only [endsAuthority, Bool.or_eq_true, beq_iff_eq] at hends
      rcases hends with (rfl | rfl) | rfl <;> exact absurd hchar (by decide)
    all_goals rintro rfl; exact absurd hchar (by decide)
  intro c hc
  rw [login, List.mem_append, List.mem_cons] at hc
  rcases hc with hc | rfl | hc
  · exact hpercent c (isPercentChar_of_mem_encodedUser hc)
  · decide
  · exact hpercent c (Text.isPercentChar_of_mem_percentBytes hc)

/-- A login begins with the name of the user, and the password is the rest. -/
theorem username_login {parts : AddressParts} {user : Option String} {pass : String}
    {later : List Char} (hparts : parts.user = login user pass ++ later) :
    parts.username = encodedUser user ∧
      parts.password = Text.percentBytes pass.toUTF8.toList ++ later := by
  have husername : parts.username = encodedUser user := by
    rw [username, hparts, login, List.append_assoc, List.takeWhile_append_of_pos,
      List.cons_append, List.takeWhile_cons_of_neg (by decide), List.append_nil]
    intro c hc
    have hchar := isPercentChar_of_mem_encodedUser hc
    rw [bne_iff_ne]
    rintro rfl
    exact absurd hchar (by decide)
  refine ⟨husername, ?_⟩
  rw [password, husername, hparts, login, List.append_assoc, List.drop_length_add_append]
  rfl

/-- Only without a name and a password is a login a mere colon. -/
theorem login_append_eq_colon_iff {user : Option String} {pass : String} {later : List Char} :
    login user pass ++ later = [':'] ↔ pass = "" ∧ login user "" ++ later = [':'] := by
  unfold login
  generalize encodedUser user = name
  rw [← Text.percentBytes_toUTF8_eq_nil_iff (s := pass),
    Text.percentBytes_toUTF8_eq_nil_iff.2 rfl]
  generalize Text.percentBytes pass.toUTF8.toList = chars
  cases name with
  | nil => cases chars <;> simp
  | cons c name => simp

end AddressParts

/-! ## The password in the address of a database -/

namespace RedisSettings

open AddressParts (login encodedUser afterLogin? withLogin?)

def withPassword (redis : RedisSettings) (pass : String) : RedisSettings :=
  { redis with password := some pass }

/-- What stands in the address after the login and its at-sign. -/
def place (redis : RedisSettings) : List Char :=
  (redis.host ++ ":" ++ Decimal.natText redis.port.toNat ++ "/" ++
    Decimal.intText redis.db.toInt).toList

theorem toList_url_withPassword (redis : RedisSettings) (pass : String) :
    (redis.withPassword pass).url.toList = (redis.scheme ++ "://").toList ++
      (login redis.username pass ++ '@' :: redis.place) := by
  have hcredentials : (redis.withPassword pass).credentials.toList =
      login redis.username pass ++ ['@'] := by
    obtain ⟨host, port, username, password, db, tls, opTimeout⟩ := redis
    cases username with
    | none => simp [credentials, withPassword, login, encodedUser, Text.percentEncode]
    | some user => simp [credentials, withPassword, login, encodedUser, Text.percentEncode]
  have hurl : (redis.withPassword pass).url =
      redis.scheme ++ "://" ++ (redis.withPassword pass).credentials ++ redis.host ++ ":" ++
        Decimal.natText redis.port.toNat ++ "/" ++ Decimal.intText redis.db.toInt := rfl
  rw [hurl, place]
  simp only [String.toList_append, hcredentials, List.append_assoc, List.cons_append,
    List.nil_append]

/-- The parts of an address with a password. -/
theorem read?_withPassword (redis : RedisSettings) (pass : String) :
    AddressParts.read? ((redis.withPassword pass).url.toList.drop
        ((redis.withPassword pass).scheme.length + 3)) =
      (afterLogin? redis.place).bind (withLogin? (login redis.username pass)) := by
  have hscheme : (redis.withPassword pass).scheme.length + 3 =
      (redis.scheme ++ "://").toList.length := by
    rw [String.length_toList, String.length_append]
    rfl
  rw [toList_url_withPassword, hscheme, List.drop_left,
    AddressParts.read?_login (AddressParts.isLogin_login _ _)]

/-- Why two addresses cannot be used that differ in their passwords: for the same reason, unless
just one of the passwords is empty, and no host is named.  Then the empty password is not taken for
one, so that this address is well formed, and the other is not. -/
inductive FaultsAlike (p q : String) : Option AddressFault → Option AddressFault → Prop where
  | same (fault : Option AddressFault) : FaultsAlike p q fault fault
  | emptyLeft (hp : p = "") (hq : q ≠ "") : FaultsAlike p q (some .hostless) (some .malformed)
  | emptyRight (hp : p ≠ "") (hq : q = "") : FaultsAlike p q (some .malformed) (some .hostless)

def faultOf? (tls : Bool) (parts : AddressParts) : Option AddressFault :=
  if parts.host.isEmpty then some .hostless
  else if tls && parts.fragment.any (· != "insecure".toList) then some .unknownVariant
  else if !isDatabasePath parts.path then some .invalidDatabase
  else if (Text.percentText? parts.username).isNone then some .invalidUsername
  else if (Text.percentText? parts.password).isNone then some .invalidPassword
  else
    match parts.protocol? with
    | some version =>
      if version ∈ AddressParts.protocols then none else some (.unknownProtocol version)
    | none => none

theorem addressFault?_eq (redis : RedisSettings) (pass : String) :
    (redis.withPassword pass).addressFault? =
      match (afterLogin? redis.place).bind (withLogin? (login redis.username pass)) with
      | none => some .malformed
      | some parts => faultOf? redis.tls parts := by
  rw [addressFault?, read?_withPassword]
  cases (afterLogin? redis.place).bind (withLogin? (login redis.username pass)) <;> rfl

theorem faultOf?_congr (tls : Bool) (parts : AddressParts) {user user' : List Char}
    (husername : { parts with user }.username = { parts with user := user' }.username)
    (hpassword : (Text.percentText? { parts with user }.password).isNone =
      (Text.percentText? { parts with user := user' }.password).isNone) :
    faultOf? tls { parts with user } = faultOf? tls { parts with user := user' } := by
  unfold faultOf?
  rw [husername, hpassword]
  rfl

/-- Where a host is named, the password makes no difference. -/
theorem faultOf?_login (tls : Bool) (parts : AddressParts) (user : Option String) (p q : String) :
    faultOf? tls { parts with user := login user p ++ parts.user } =
      faultOf? tls { parts with user := login user q ++ parts.user } := by
  have hread : ∀ pass, { parts with user := login user pass ++ parts.user }.username =
        encodedUser user ∧
      { parts with user := login user pass ++ parts.user }.password =
        Text.percentBytes pass.toUTF8.toList ++ parts.user :=
    fun pass => AddressParts.username_login rfl
  refine faultOf?_congr tls parts ?_ ?_
  · rw [(hread p).1, (hread q).1]
  · rw [(hread p).2, (hread q).2, Text.isNone_percentText?, Text.isNone_percentText?]

section Place

variable {redis : RedisSettings} {parts : AddressParts}

theorem addressFault?_eq_of_host (hparts : afterLogin? redis.place = some parts)
    (hhost : parts.host ≠ []) (p q : String) :
    (redis.withPassword p).addressFault? = (redis.withPassword q).addressFault? := by
  rw [addressFault?_eq, addressFault?_eq, hparts]
  simp only [Option.bind_some, AddressParts.withLogin?_of_host hhost]
  exact faultOf?_login redis.tls parts redis.username p q

theorem addressFault?_of_hostless (hparts : afterLogin? redis.place = some parts)
    (hhost : parts.host = []) (pass : String) :
    (redis.withPassword pass).addressFault? =
      if pass = "" ∧ login redis.username "" ++ parts.user = [':']
        then some .hostless else some .malformed := by
  rw [addressFault?_eq, hparts]
  simp only [← AddressParts.login_append_eq_colon_iff, Option.bind_some,
    AddressParts.withLogin?_of_hostless hhost]
  by_cases hcolon : login redis.username pass ++ parts.user = [':']
  · rw [if_pos hcolon, if_pos hcolon]
    simp only [faultOf?, hhost, List.isEmpty_nil, if_true]
  · rw [if_neg hcolon, if_neg hcolon]

end Place

theorem addressFault?_withPassword (redis : RedisSettings) (p q : String) :
    FaultsAlike p q (redis.withPassword p).addressFault? (redis.withPassword q).addressFault? := by
  cases hparts : afterLogin? redis.place with
  | none =>
      rw [addressFault?_eq, addressFault?_eq, hparts]
      exact .same _
  | some parts =>
      by_cases hhost : parts.host = []
      · have hfault := addressFault?_of_hostless hparts hhost
        rw [hfault, hfault]
        by_cases hcolon : login redis.username "" ++ parts.user = [':']
        · simp only [hcolon, and_true]
          split <;> split
          · exact .same _
          · next hp hq => exact .emptyLeft hp hq
          · next hp hq => exact .emptyRight hp hq
          · exact .same _
        · simp only [hcolon, and_false, if_false]
          exact .same _
      · rw [addressFault?_eq_of_host hparts hhost p q]
        exact .same _

end RedisSettings

end Throttle
