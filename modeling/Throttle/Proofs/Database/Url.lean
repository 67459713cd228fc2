import Mathlib.Data.List.TakeWhile
import Throttle.Proofs.Database.Address
import Throttle.Proofs.Key
import Throttle.Proofs.Settings.Image

/-!
# What an address says

The login in the address of a database is written so that nothing in it is an at-sign, and the only
colon is that between the user and the password; the port and the number of the database are what
stands behind the last colon and the last slash.  Main statement: the address determines everything
but the timeout, as long as no name in it is empty and there is no at-sign in the host, and both
names of the login are read back.
-/

namespace Throttle

namespace AddressParts

/-- The text that a part of a login says in percent-encoding; an empty part says none. -/
def partText? (part : List Char) : Option String :=
  if part = [] then none else Text.percentText? part

/-- The user and the password in a login: what stands before the first colon, and behind it. -/
def loginTexts (login : String) : Option String × Option String :=
  let user := login.toList.takeWhile (· != ':')
  (partText? user, partText? (login.toList.drop (user.length + 1)))

theorem partText?_percentBytes {s : String} (hs : s ≠ "") :
    partText? (Text.percentBytes s.toUTF8.toList) = some s := by
  rw [partText?, if_neg (Text.percentBytes_toUTF8_eq_nil_iff.not.2 hs),
    Text.percentText?_percentBytes]

end AddressParts

namespace RedisSettings

/-- A user or password that is given is not empty. -/
def HasNoEmptyName (redis : RedisSettings) : Prop :=
  redis.username ≠ some "" ∧ redis.password ≠ some ""

instance (redis : RedisSettings) : Decidable redis.HasNoEmptyName :=
  inferInstanceAs (Decidable (_ ∧ _))

/-- The login in the address of a database; it is empty if neither a user nor a password is
given. -/
def urlLogin (redis : RedisSettings) : List Char :=
  match redis.password with
  | some pass => AddressParts.login redis.username pass
  | none => AddressParts.encodedUser redis.username

section Login

variable {redis : RedisSettings}

theorem encodedUser_eq_nil_iff {user : Option String} (huser : user ≠ some "") :
    AddressParts.encodedUser user = [] ↔ user = none := by
  cases user with
  | none => simp [AddressParts.encodedUser]
  | some user =>
      have hne : user ≠ "" := fun hempty => huser (congrArg some hempty)
      have hencoded := Text.percentBytes_toUTF8_eq_nil_iff.not.2 hne
      rw [AddressParts.encodedUser, Option.elim_some]
      simp only [hencoded, reduceCtorEq]

theorem urlLogin_eq_nil_iff (hnames : redis.HasNoEmptyName) :
    redis.urlLogin = [] ↔ redis.username = none ∧ redis.password = none := by
  unfold urlLogin
  cases redis.password with
  | some pass => simp [AddressParts.login]
  | none => simpa using encodedUser_eq_nil_iff hnames.1

theorem toList_credentials (hnames : redis.HasNoEmptyName) :
    redis.credentials.toList = if redis.urlLogin = [] then [] else redis.urlLogin ++ ['@'] := by
  have hnil := urlLogin_eq_nil_iff hnames
  obtain ⟨host, port, username, password, db, tls, opTimeout⟩ := redis
  cases username <;> cases password <;>
    simp_all [credentials, urlLogin, AddressParts.login, AddressParts.encodedUser,
      Text.percentEncode]

theorem mem_urlLogin {c : Char} (hc : c ∈ redis.urlLogin) :
    c.isAlphanum = true ∨ c = '%' ∨ c = ':' := by
  have hpercent : ∀ c, Text.isPercentChar c = true → c.isAlphanum = true ∨ c = '%' ∨ c = ':' := by
    intro c hchar
    rw [Text.isPercentChar, Bool.or_eq_true, beq_iff_eq] at hchar
    rcases hchar with hsign | hplain
    · exact .inr (.inl hsign)
    · exact .inl hplain
  unfold urlLogin AddressParts.login at hc
  split at hc
  · rw [List.mem_append, List.mem_cons] at hc
    rcases hc with huser | hcolon | hpass
    · exact hpercent c (AddressParts.isPercentChar_of_mem_encodedUser huser)
    · exact .inr (.inr hcolon)
    · exact hpercent c (Text.isPercentChar_of_mem_percentBytes hpass)
  · exact hpercent c (AddressParts.isPercentChar_of_mem_encodedUser hc)

theorem colon_notMem_encodedUser (user : Option String) :
    ':' ∉ AddressParts.encodedUser user := by
  intro hcolon
  exact absurd (AddressParts.isPercentChar_of_mem_encodedUser hcolon) (by decide)

theorem colon_notMem_percentBytes (bs : List UInt8) : ':' ∉ Text.percentBytes bs := by
  intro hcolon
  exact absurd (Text.isPercentChar_of_mem_percentBytes hcolon) (by decide)

theorem count_colon_urlLogin : redis.urlLogin.count ':' ≤ 1 := by
  have huser := List.count_eq_zero.2 (colon_notMem_encodedUser redis.username)
  unfold urlLogin AddressParts.login
  split
  · next pass _ =>
    have hpass := List.count_eq_zero.2 (colon_notMem_percentBytes pass.toUTF8.toList)
    rw [List.count_append, huser, List.count_cons_self, hpass]
  · rw [huser]
    exact Nat.zero_le 1

/-- What the login says are the user and the password. -/
theorem loginTexts_urlLogin (hnames : redis.HasNoEmptyName) :
    AddressParts.loginTexts (String.ofList redis.urlLogin) = (redis.username, redis.password) := by
  have huser :
      AddressParts.partText? (AddressParts.encodedUser redis.username) = redis.username := by
    cases husername : redis.username with
    | none => rfl
    | some user =>
        have hne : user ≠ "" := fun hempty => hnames.1 (by rw [husername, hempty])
        exact AddressParts.partText?_percentBytes hne
  have hplain : ∀ c ∈ AddressParts.encodedUser redis.username, (c != ':') = true := by
    intro c hc
    rw [bne_iff_ne]
    rintro rfl
    exact colon_notMem_encodedUser redis.username hc
  unfold AddressParts.loginTexts urlLogin
  cases hpassword : redis.password with
  | none =>
      dsimp only
      rw [String.toList_ofList, List.takeWhile_eq_self_iff.2 hplain, huser,
        List.drop_eq_nil_of_le (Nat.le_succ _)]
      rfl
  | some pass =>
      have hpass : pass ≠ "" := fun hempty => hnames.2 (by rw [hpassword, hempty])
      dsimp only
      rw [String.toList_ofList, AddressParts.login, List.takeWhile_append_of_pos hplain,
        List.takeWhile_cons_of_neg (by decide), List.append_nil, huser,
        List.drop_length_add_append]
      exact congrArg _ (AddressParts.partText?_percentBytes hpass)

end Login

section Place

variable {redis other : RedisSettings}

theorem toList_place :
    redis.place = (redis.host.toList ++ ':' :: (Decimal.natText redis.port.toNat).toList) ++
      '/' :: (Decimal.intText redis.db.toInt).toList := by
  simp [place]

theorem at_notMem_place (hhost : '@' ∉ redis.host.toList) : '@' ∉ redis.place := by
  rw [toList_place]
  simp only [List.mem_append, List.mem_cons, not_or]
  refine ⟨⟨hhost, by decide, fun hat => ?_⟩, by decide, fun hat => ?_⟩
  · exact absurd (Decimal.isDigit_of_mem_natText hat) (by decide)
  · exact absurd (Decimal.eq_minus_or_isDigit_of_mem_intText hat) (by decide)

/-- What stands behind the last slash is the number of the database, and what stands behind the last
colon before it is the port. -/
theorem place_inj (hplace : other.place = redis.place) :
    other.host = redis.host ∧ other.port = redis.port ∧ other.db = redis.db := by
  have hslash : ∀ i : Int, '/' ∉ (Decimal.intText i).toList :=
    fun i hmem => absurd (Decimal.eq_minus_or_isDigit_of_mem_intText hmem) (by decide)
  have hcolon : ∀ n : Nat, ':' ∉ (Decimal.natText n).toList :=
    fun n hmem => absurd (Decimal.isDigit_of_mem_natText hmem) (by decide)
  rw [toList_place, toList_place] at hplace
  obtain ⟨hfront, hdb⟩ := append_cons_inj_of_last (hslash _) (hslash _) hplace
  obtain ⟨hhost, hport⟩ := append_cons_inj_of_last (hcolon _) (hcolon _) hfront
  exact ⟨String.toList_inj.1 hhost,
    UInt16.toNat_inj.1 (Decimal.natText_injective (String.toList_inj.1 hport)),
    Int64.toInt_inj.1 (Decimal.intText_injective (String.toList_inj.1 hdb))⟩

end Place

def afterScheme (redis : RedisSettings) : List Char :=
  (if redis.urlLogin = [] then [] else redis.urlLogin ++ ['@']) ++ redis.place

section Url

variable {redis other : RedisSettings}

theorem toList_url (hnames : redis.HasNoEmptyName) :
    redis.url.toList = (redis.scheme ++ "://").toList ++ redis.afterScheme := by
  rw [afterScheme, ← toList_credentials hnames]
  simp [url, place]

/-- The only at-sign ends the login. -/
theorem afterScheme_inj (hhost : '@' ∉ redis.host.toList) (hhost' : '@' ∉ other.host.toList)
    (hafter : other.afterScheme = redis.afterScheme) :
    other.urlLogin = redis.urlLogin ∧ other.place = redis.place := by
  have hplace := at_notMem_place hhost
  have hplace' := at_notMem_place hhost'
  unfold afterScheme at hafter
  -- Where only one of them has a login, its at-sign would be in the place of the other.
  split at hafter <;> split at hafter
  · next hnil' hnil => exact ⟨hnil'.trans hnil.symm, hafter⟩
  · have hat : '@' ∈ [] ++ other.place := by
      rw [hafter]
      simp
    exact absurd hat hplace'
  · have hat : '@' ∈ [] ++ redis.place := by
      rw [← hafter]
      simp
    exact absurd hat hplace
  · simp only [List.append_assoc, List.singleton_append] at hafter
    exact append_cons_inj_of_last hplace' hplace hafter

theorem scheme_inj {rest rest' : List Char}
    (hurl : (other.scheme ++ "://").toList ++ rest' = (redis.scheme ++ "://").toList ++ rest) :
    other.tls = redis.tls ∧ rest' = rest := by
  unfold scheme at hurl
  cases htls : redis.tls <;> cases htls' : other.tls <;> simp_all

theorem urlLogin_inj (hnames : redis.HasNoEmptyName) (hnames' : other.HasNoEmptyName)
    (hlogin : other.urlLogin = redis.urlLogin) :
    other.username = redis.username ∧ other.password = redis.password := by
  have htexts := loginTexts_urlLogin hnames'
  rw [hlogin, loginTexts_urlLogin hnames, Prod.mk.injEq] at htexts
  exact ⟨htexts.1.symm, htexts.2.symm⟩

theorem url_inj (hnames : redis.HasNoEmptyName) (hnames' : other.HasNoEmptyName)
    (hhost : '@' ∉ redis.host.toList) (hhost' : '@' ∉ other.host.toList)
    (hurl : other.url = redis.url) : other = { redis with opTimeout := other.opTimeout } := by
  have hlists := congrArg String.toList hurl
  rw [toList_url hnames, toList_url hnames'] at hlists
  obtain ⟨htls, hafter⟩ := scheme_inj hlists
  obtain ⟨hlogin, hplace⟩ := afterScheme_inj hhost hhost' hafter
  obtain ⟨husername, hpassword⟩ := urlLogin_inj hnames hnames' hlogin
  obtain ⟨hhost, hport, hdb⟩ := place_inj hplace
  obtain ⟨host, port, username, password, db, tls, opTimeout⟩ := other
  simp_all

end Url

theorem hasNoEmptyName_resolve (source : Source) :
    (Settings.resolve source).value.redis.HasNoEmptyName := by
  constructor
  · intro husername
    exact (SettingName.isTidy_of_lookup husername).1 rfl
  · intro hpassword
    exact (SettingName.isTidy_of_lookup hpassword).1 rfl

/-- The address of a database, in which no name is empty and no at-sign is in the host, is the
address of no settings that differ in more than the timeout.  What stands behind its scheme up to
the only at-sign is a login of letters, digits, percent signs and at most one colon, which says the
user and the password; there is no at-sign if neither is given.  What was read from a source has no
empty names. -/
theorem url_unambiguous (redis : RedisSettings) (hnames : redis.HasNoEmptyName)
    (hhost : '@' ∉ redis.host.toList) :
    let place := redis.host ++ ":" ++ Decimal.natText redis.port.toNat ++ "/" ++
      Decimal.intText redis.db.toInt
    (∀ other : RedisSettings, other.HasNoEmptyName → '@' ∉ other.host.toList →
      other.url = redis.url → other = { redis with opTimeout := other.opTimeout }) ∧
    '@' ∉ place.toList ∧
    (redis.username = none → redis.password = none → redis.url = redis.scheme ++ "://" ++ place) ∧
    (redis.username ≠ none ∨ redis.password ≠ none → ∃ login : String,
      redis.url = redis.scheme ++ "://" ++ login ++ "@" ++ place ∧
      (∀ c ∈ login.toList, c.isAlphanum = true ∨ c = '%' ∨ c = ':') ∧
      login.toList.count ':' ≤ 1 ∧
      AddressParts.loginTexts login = (redis.username, redis.password)) ∧
    ∀ source, (Settings.resolve source).value.redis.HasNoEmptyName := by
  intro place
  have hnil := urlLogin_eq_nil_iff hnames
  have hurl := toList_url hnames
  refine ⟨fun other hnames' hhost' => url_inj hnames hnames' hhost hhost', at_notMem_place hhost,
    ?_, ?_, hasNoEmptyName_resolve⟩
  · intro husername hpassword
    rw [afterScheme, if_pos (hnil.2 ⟨husername, hpassword⟩), List.nil_append,
      RedisSettings.place, ← String.toList_append] at hurl
    exact String.toList_inj.1 hurl
  · intro hgiven
    have hlogin : redis.urlLogin ≠ [] := by
      rw [Ne, hnil, not_and_or]
      exact hgiven
    refine ⟨String.ofList redis.urlLogin, ?_, ?_, ?_, loginTexts_urlLogin hnames⟩
    · rw [← String.toList_inj, hurl, afterScheme, if_neg hlogin, RedisSettings.place]
      simp [place]
    · intro c hc
      rw [String.toList_ofList] at hc
      exact mem_urlLogin hc
    · rw [String.toList_ofList]
      exact count_colon_urlLogin

/-- A user and a password that look like parts of an address. -/
theorem url_unambiguous_for_delimiters :
    let redis : RedisSettings :=
      ⟨"::1", 6379, some "a:b@c/9", some "rediss://ü%41@", -3, false, 500⟩
    let url := "redis://a%3Ab%40c%2F9:rediss%3A%2F%2F%C3%BC%2541%40@::1:6379/-3"
    redis.HasNoEmptyName ∧ '@' ∉ redis.host.toList ∧ redis.url = url ∧
      (∃ login : String, url = "redis" ++ "://" ++ login ++ "@" ++ "::1:6379/-3" ∧
        AddressParts.loginTexts login = (some "a:b@c/9", some "rediss://ü%41@")) ∧
      ∀ other : RedisSettings, other.HasNoEmptyName → '@' ∉ other.host.toList → other.url = url →
        other.tls = false ∧ other.host = "::1" ∧ other.port = 6379 ∧ other.db = -3 := by
  intro redis url
  have hnames : redis.HasNoEmptyName := by decide
  have hhost : '@' ∉ redis.host.toList := by decide
  have hurl : redis.url = url := by decide +kernel
  obtain ⟨hother, -, -, hlogin, -⟩ := url_unambiguous redis hnames hhost
  obtain ⟨login, hsplit, -, -, htexts⟩ := hlogin (.inl (by decide))
  have hplace : redis.host ++ ":" ++ Decimal.natText redis.port.toNat ++ "/" ++
      Decimal.intText redis.db.toInt = "::1:6379/-3" := by
    decide +kernel
  rw [hplace, hurl] at hsplit
  refine ⟨hnames, hhost, hurl, ⟨login, hsplit, htexts⟩, ?_⟩
  intro other hnames' hhost' hsame
  rw [hother other hnames' hhost' (hsame.trans hurl.symm)]
  exact ⟨rfl, rfl, rfl, rfl⟩

end RedisSettings

end Throttle
