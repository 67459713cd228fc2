import Mathlib.Data.List.Forall2
import Mathlib.Data.List.TakeWhile
import Throttle.Http.Request
import Throttle.Proofs.Key
import Throttle.Text.Hex

/-!
# Who sent a request

A request offers names of its client in up to five places, which come one after the other: the first
line of a header counts, if nothing but tabs and visible characters and spaces is in it, and of
`x-forwarded-for` only what stands before the first comma.  Main statement: the client has the name
that the first of these places offers, which is the name of a counter as it is.
-/

namespace Throttle

/-! ## Texts of addresses -/

theorem Text.isBlank_of_any {s : String} (hs : s.toList.any isBlank = false) :
    ∀ c ∈ s.toList, isBlank c = false := by
  intro c hc
  rw [Bool.eq_false_iff]
  exact List.any_eq_false.1 hs c hc

/-- No blank is in a text that is put together from texts without one. -/
theorem Text.isBlank_of_mem_intercalate {separator : String} {parts : List String}
    (hseparator : separator.toList.any Text.isBlank = false)
    (hparts : ∀ part ∈ parts, ∀ c ∈ part.toList, Text.isBlank c = false) :
    ∀ c ∈ (separator.intercalate parts).toList, Text.isBlank c = false := by
  induction parts with
  | nil => simp
  | cons part parts ih =>
      have hpart := hparts part List.mem_cons_self
      cases parts with
      | nil => simpa using hpart
      | cons next parts =>
          have hrest := ih fun other hother => hparts other (List.mem_cons_of_mem _ hother)
          intro c hc
          rw [String.intercalate_cons_cons, String.toList_append, String.toList_append,
            List.append_assoc, List.mem_append, List.mem_append] at hc
          rcases hc with hc | hc | hc
          · exact hpart c hc
          · exact Text.isBlank_of_any hseparator c hc
          · exact hrest c hc

theorem Text.intercalate_ne_empty {separator first second : String} (hseparator : separator ≠ "")
    (parts : List String) : separator.intercalate (first :: second :: parts) ≠ "" := by
  rw [String.intercalate_cons_cons]
  simp [hseparator]

namespace Net.IpAddress

theorem isBlank_of_mem_dotted {a b c d : UInt8} :
    ∀ x ∈ (dotted a b c d).toList, Text.isBlank x = false := by
  refine Text.isBlank_of_mem_intercalate (by decide) fun part hpart x hx => ?_
  obtain ⟨n, -, rfl⟩ := List.mem_map.1 hpart
  exact Text.isBlank_of_isDigit (Decimal.isDigit_of_mem_natText hx)

theorem isBlank_of_mem_groupsText {gs : List UInt16} :
    ∀ c ∈ (groupsText gs).toList, Text.isBlank c = false := by
  refine Text.isBlank_of_mem_intercalate (by decide) fun part hpart c hc => ?_
  obtain ⟨g, -, rfl⟩ := List.mem_map.1 hpart
  rw [groupText, String.toList_ofList] at hc
  exact Text.of_mem_toDigits (p := (Text.isBlank · = false)) (by decide) g.toNat c hc

/-- There is no blank in the text of an address. -/
theorem isBlank_of_mem_text (ip : IpAddress) : ∀ c ∈ ip.text.toList, Text.isBlank c = false := by
  have hprefix := Text.isBlank_of_any (s := "::ffff:") (by decide)
  have hgap := Text.isBlank_of_any (s := "::") (by decide)
  intro c hc
  unfold text at hc
  split at hc
  · exact isBlank_of_mem_dotted c hc
  · rw [String.toList_append, List.mem_append] at hc
    rcases hc with hc | hc
    · exact hprefix c hc
    · exact isBlank_of_mem_dotted c hc
  · dsimp only at hc
    split at hc
    · rw [String.toList_append, String.toList_append, List.append_assoc, List.mem_append,
        List.mem_append] at hc
      rcases hc with hc | hc | hc
      · exact isBlank_of_mem_groupsText c hc
      · exact hgap c hc
      · exact isBlank_of_mem_groupsText c hc
    · exact isBlank_of_mem_groupsText c hc

theorem text_ne_empty (ip : IpAddress) : ip.text ≠ "" := by
  unfold text
  split
  · exact Text.intercalate_ne_empty (by decide) _
  · simp
  · dsimp only
    split
    · simp
    · exact Text.intercalate_ne_empty (by decide) _

end Net.IpAddress

/-! ## Names that a request offers -/

namespace Http

/-- The first of the lines with a name has a value. -/
def IsFirstLine (headers : List Header) (name : String) (value : List UInt8) : Prop :=
  ∃ before after, headers = before ++ ⟨name, value⟩ :: after ∧
    ∀ header ∈ before, header.name ≠ name

/-- Bytes say a text if they are tabs, spaces and visible ASCII characters, and those of the
text. -/
def Says (value : List UInt8) (text : String) : Prop :=
  List.Forall₂ (fun b c => (b.toNat = 9 ∨ 0x20 ≤ b.toNat ∧ b.toNat ≤ 0x7e) ∧ c.toNat = b.toNat)
    value text.toList

/-- The part of a text up to its first comma, or all of it. -/
def IsFirstItem (text item : String) : Prop :=
  ',' ∉ item.toList ∧ (text = item ∨ ∃ rest, text = item ++ "," ++ rest)

theorem isTextByte_iff {b : UInt8} :
    isTextByte b = true ↔ b.toNat = 9 ∨ 0x20 ≤ b.toNat ∧ b.toNat ≤ 0x7e := by
  have hall : ∀ n ∈ List.range 256, isTextByte (UInt8.ofNat n) = true ↔
      n = 9 ∨ 0x20 ≤ n ∧ n ≤ 0x7e := by
    decide +kernel
  have hn := hall b.toNat (List.mem_range.2 b.toNat_lt)
  rwa [UInt8.ofNat_toNat] at hn

theorem toNat_eq_iff {b : UInt8} {c : Char} : c.toNat = b.toNat ↔ Char.ofNat b.toNat = c := by
  have hbytes : ∀ n ∈ List.range 256, (Char.ofNat n).toNat = n := by decide +kernel
  constructor
  · intro hc
    rw [← hc, Char.ofNat_toNat]
  · rintro rfl
    exact hbytes b.toNat (List.mem_range.2 b.toNat_lt)

theorem Header.text?_eq_some_iff {header : Header} {text : String} :
    header.text? = some text ↔ Says header.value text := by
  unfold Header.text? Says
  simp only [List.forall₂_and_left, ← isTextByte_iff, toNat_eq_iff]
  rw [← List.forall₂_map_left_iff, List.forall₂_eq_eq_eq, ← List.all_eq_true]
  split
  · next hall => rw [Option.some.injEq, and_iff_right hall, ← String.toList_inj,
      String.toList_ofList]
  · next hall => simp [hall]

theorem find?_bind_text?_eq_some_iff {headers : List Header} {name text : String} :
    (headers.find? (·.name == name)).bind Header.text? = some text ↔
      ∃ value, IsFirstLine headers name value ∧ Says value text := by
  simp only [Option.bind_eq_some_iff, List.find?_eq_some_iff_append, Header.text?_eq_some_iff,
    beq_iff_eq, Bool.not_eq_true', beq_eq_false_iff_ne]
  constructor
  · rintro ⟨⟨_, value⟩, ⟨rfl, before, after, hheaders, hbefore⟩, htext⟩
    exact ⟨value, ⟨before, after, hheaders, hbefore⟩, htext⟩
  · rintro ⟨value, ⟨before, after, hheaders, hbefore⟩, htext⟩
    exact ⟨⟨name, value⟩, ⟨rfl, before, after, hheaders, hbefore⟩, htext⟩

theorem headerText?_eq_some_iff {headers : List Header} {name text : String} :
    headerText? name headers = some text ↔
      ∃ value raw, IsFirstLine headers name value ∧ Says value raw ∧ text = Text.trim raw ∧
        text ≠ "" := by
  unfold headerText?
  simp only [Option.filter_eq_some_iff, Option.map_eq_some_iff, find?_bind_text?_eq_some_iff,
    Bool.not_eq_true', String.isEmpty_eq_false_iff]
  constructor
  · rintro ⟨⟨raw, ⟨value, hfirst, htext⟩, rfl⟩, hne⟩
    exact ⟨value, raw, hfirst, htext, rfl, hne⟩
  · rintro ⟨value, raw, hfirst, htext, rfl, hne⟩
    exact ⟨⟨raw, ⟨value, hfirst, htext⟩, rfl⟩, hne⟩

theorem isFirstItem_iff {text item : String} :
    IsFirstItem text item ↔ String.ofList (text.toList.takeWhile (· != ',')) = item := by
  constructor
  · rintro ⟨hcomma, hitem⟩
    have hall : ∀ c ∈ item.toList, (c != ',') = true := by
      intro c hc
      rw [bne_iff_ne]
      rintro rfl
      exact hcomma hc
    rcases hitem with rfl | ⟨rest, rfl⟩
    · rw [List.takeWhile_eq_self_iff.2 hall, String.ofList_toList]
    · have hlist : (item ++ "," ++ rest).toList = item.toList ++ ',' :: rest.toList := by simp
      rw [hlist, List.takeWhile_append_of_pos hall, List.takeWhile_cons_of_neg (by decide),
        List.append_nil, String.ofList_toList]
  · rintro rfl
    have hsplit := List.takeWhile_append_dropWhile (p := (· != ',')) (l := text.toList)
    constructor
    · intro hcomma
      rw [String.toList_ofList] at hcomma
      exact absurd (List.mem_takeWhile_imp hcomma) (by decide)
    · cases hrest : text.toList.dropWhile (· != ',') with
      | nil =>
          -- There is no comma, and the item is the whole text.
          rw [hrest, List.append_nil] at hsplit
          exact .inl (by rw [hsplit, String.ofList_toList])
      | cons c rest =>
          have hc : c = ',' := by
            have hnot := List.head?_dropWhile_not (· != ',') text.toList
            rw [hrest] at hnot
            simpa using hnot
          refine .inr ⟨String.ofList rest, ?_⟩
          rw [hrest, hc] at hsplit
          rw [← String.toList_inj, String.toList_append, String.toList_append,
            String.toList_ofList, String.toList_ofList]
          simpa using hsplit.symm

theorem firstItem?_eq_some_iff {headers : List Header} {name text : String} :
    firstItem? name headers = some text ↔
      ∃ value raw item, IsFirstLine headers name value ∧ Says value raw ∧ IsFirstItem raw item ∧
        text = Text.trim item ∧ text ≠ "" := by
  unfold firstItem?
  simp only [Option.filter_eq_some_iff, Option.map_eq_some_iff, find?_bind_text?_eq_some_iff,
    Bool.not_eq_true', String.isEmpty_eq_false_iff, isFirstItem_iff]
  constructor
  · rintro ⟨⟨raw, ⟨value, hfirst, htext⟩, rfl⟩, hne⟩
    exact ⟨value, raw, _, hfirst, htext, rfl, rfl, hne⟩
  · rintro ⟨value, raw, item, hfirst, htext, rfl, rfl, hne⟩
    exact ⟨⟨raw, ⟨value, hfirst, htext⟩, rfl⟩, hne⟩

/-- Where a request may name its client. -/
inductive Origin where
  | forwardedFor
  | realIp
  | resolved
  | peer
  | nowhere
deriving DecidableEq, Repr

/-- All of them, in the order in which they count. -/
def Origin.all : List Origin := [forwardedFor, realIp, resolved, peer, nowhere]

namespace Request

/-- A request offers a name of its client in a place. -/
inductive Offers (request : Request) : Origin → String → Prop where
  | forwardedFor {value : List UInt8} {raw item : String}
      (hfirst : IsFirstLine request.headers "x-forwarded-for" value) (htext : Says value raw)
      (hitem : IsFirstItem raw item) (hname : Text.trim item ≠ "") :
      Offers request .forwardedFor (Text.trim item)
  | realIp {value : List UInt8} {raw : String}
      (hfirst : IsFirstLine request.headers "x-real-ip" value) (htext : Says value raw)
      (hname : Text.trim raw ≠ "") :
      Offers request .realIp (Text.trim raw)
  | resolved {ip : Net.IpAddress} (hresolved : request.resolved = some ip) :
      Offers request .resolved ip.text
  | peer {peer : Net.SocketAddress} (hpeer : request.peer = some peer) :
      Offers request .peer peer.ip.text
  | nowhere : Offers request .nowhere "unknown"

/-- A request names its client in a place: it offers the name there, and none in a place that comes
before. -/
def Names (request : Request) (origin : Origin) (name : String) : Prop :=
  request.Offers origin name ∧ ∃ before after, Origin.all = before ++ origin :: after ∧
    ∀ earlier ∈ before, ∀ other, ¬ request.Offers earlier other

def offer? (request : Request) : Origin → Option String
  | .forwardedFor => firstItem? "x-forwarded-for" request.headers
  | .realIp => headerText? "x-real-ip" request.headers
  | .resolved => request.resolved.map Net.IpAddress.text
  | .peer => request.peer.map fun peer => peer.ip.text
  | .nowhere => some unknownClient

theorem offer?_eq_some_iff {request : Request} {origin : Origin} {name : String} :
    request.offer? origin = some name ↔ request.Offers origin name := by
  cases origin with
  | forwardedFor =>
      rw [offer?, firstItem?_eq_some_iff]
      constructor
      · rintro ⟨value, raw, item, hfirst, htext, hitem, rfl, hne⟩
        exact .forwardedFor hfirst htext hitem hne
      · rintro (@⟨value, raw, item, hfirst, htext, hitem, hne⟩)
        exact ⟨value, raw, item, hfirst, htext, hitem, rfl, hne⟩
  | realIp =>
      rw [offer?, headerText?_eq_some_iff]
      constructor
      · rintro ⟨value, raw, hfirst, htext, rfl, hne⟩
        exact .realIp hfirst htext hne
      · intro hoffers
        cases hoffers with
        | realIp hfirst htext hne => exact ⟨_, _, hfirst, htext, rfl, hne⟩
  | resolved =>
      rw [offer?, Option.map_eq_some_iff]
      constructor
      · rintro ⟨ip, hresolved, rfl⟩
        exact .resolved hresolved
      · intro hoffers
        cases hoffers with
        | resolved hresolved => exact ⟨_, hresolved, rfl⟩
  | peer =>
      rw [offer?, Option.map_eq_some_iff]
      constructor
      · rintro ⟨peer, hpeer, rfl⟩
        exact .peer hpeer
      · intro hoffers
        cases hoffers with
        | peer hpeer => exact ⟨_, hpeer, rfl⟩
  | nowhere =>
      rw [offer?, Option.some.injEq]
      constructor
      · rintro rfl
        exact .nowhere
      · intro hoffers
        cases hoffers
        rfl

/-- The client has the name that is offered in the first place where there is one. -/
theorem findSome?_offer? (request : Request) :
    Origin.all.findSome? request.offer? = some request.client := by
  simp only [Origin.all, List.findSome?_cons, offer?, client]
  cases firstItem? "x-forwarded-for" request.headers with
  | some name => rfl
  | none =>
      cases headerText? "x-real-ip" request.headers with
      | some name => rfl
      | none =>
          cases request.resolved with
          | some ip => rfl
          | none =>
              cases request.peer with
              | some peer => rfl
              | none => rfl

theorem names_iff {request : Request} {origin : Origin} {name : String} :
    request.Names origin name ↔ ∃ before after, Origin.all = before ++ origin :: after ∧
      request.offer? origin = some name ∧ ∀ earlier ∈ before, request.offer? earlier = none := by
  unfold Names
  simp only [Option.eq_none_iff_forall_ne_some, ne_eq, offer?_eq_some_iff]
  constructor
  · rintro ⟨hoffers, before, after, hall, hbefore⟩
    exact ⟨before, after, hall, hoffers, hbefore⟩
  · rintro ⟨before, after, hall, hoffers, hbefore⟩
    exact ⟨hoffers, before, after, hall, hbefore⟩

theorem client_eq_iff {request : Request} {name : String} :
    request.client = name ↔ ∃ origin, request.Names origin name := by
  rw [← Option.some_inj, ← findSome?_offer?, List.findSome?_eq_some_iff]
  constructor
  · rintro ⟨before, origin, after, hfirst⟩
    exact ⟨origin, names_iff.2 ⟨before, after, hfirst⟩⟩
  · rintro ⟨origin, hnames⟩
    obtain ⟨before, after, hfirst⟩ := names_iff.1 hnames
    exact ⟨before, origin, after, hfirst⟩

theorem Offers.ne_empty {request : Request} {origin : Origin} {name : String}
    (hoffers : request.Offers origin name) : name ≠ "" := by
  cases hoffers with
  | forwardedFor _ _ _ hname => exact hname
  | realIp _ _ hname => exact hname
  | resolved _ => exact Net.IpAddress.text_ne_empty _
  | peer _ => exact Net.IpAddress.text_ne_empty _
  | nowhere => decide

theorem Offers.isTrimmed {request : Request} {origin : Origin} {name : String}
    (hoffers : request.Offers origin name) : Text.IsTrimmed name := by
  cases hoffers with
  | forwardedFor _ _ _ _ => exact Text.isTrimmed_trim _
  | realIp _ _ _ => exact Text.isTrimmed_trim _
  | resolved _ => exact Text.isTrimmed_of_forall (Net.IpAddress.isBlank_of_mem_text _)
  | peer _ => exact Text.isTrimmed_of_forall (Net.IpAddress.isBlank_of_mem_text _)
  | nowhere => decide

theorem Offers.no_comma {request : Request} {name : String}
    (hoffers : request.Offers .forwardedFor name) : ',' ∉ name.toList := by
  cases hoffers with
  | forwardedFor _ _ hitem _ =>
      intro hcomma
      exact hitem.1 ((Text.trim_sublist _).subset hcomma)

/-- The client has the name that the request offers in the first place where it offers one, and
only this.  The name is not empty and no blank is around it, so that its counters keep it as it is;
what comes out of a list has no comma; and clients whose requests name them alike are the same
client, whatever else is in the two requests. -/
theorem client_named (request : Request) :
    (∀ name, request.client = name ↔ ∃ origin, request.Names origin name) ∧
    request.client ≠ "" ∧
    Text.IsTrimmed request.client ∧
    (∀ method, (CounterKey.of request.client method).client = request.client) ∧
    (∀ name, request.Names .forwardedFor name → ',' ∉ request.client.toList) ∧
    ∀ (other : Request) origin origin' name, request.Names origin name → other.Names origin' name →
      request.client = other.client := by
  obtain ⟨origin, hoffers, -⟩ := client_eq_iff.1 (rfl : request.client = request.client)
  refine ⟨fun name => client_eq_iff, hoffers.ne_empty, hoffers.isTrimmed,
    fun method => hoffers.isTrimmed, ?_, ?_⟩
  · intro name hnames
    rw [client_eq_iff.2 ⟨.forwardedFor, hnames⟩]
    exact hnames.1.no_comma
  · intro other origin origin' name hnames hother
    rw [client_eq_iff.2 ⟨origin, hnames⟩, client_eq_iff.2 ⟨origin', hother⟩]

/-- A list that begins with a blank entry does not name the client, nor does a header that cannot be
read; what comes after the first entry, after the first line and after the first place is of no
account. -/
theorem client_named_for_one_address :
    let behind : Request := ⟨"GET", "/", [
      ⟨"x-forwarded-for", "\t2001:db8::1 ,192.0.2.9".toUTF8.toList⟩,
      ⟨"x-forwarded-for", "192.0.2.7".toUTF8.toList⟩], none, some ⟨.v4 127 0 0 1, 80⟩⟩
    let blank : Request := ⟨"GET", "/", [
      ⟨"x-real-ip", "2001:db8::1".toUTF8.toList⟩,
      ⟨"x-forwarded-for", " ,192.0.2.9".toUTF8.toList⟩,
      ⟨"x-forwarded-for", "192.0.2.7".toUTF8.toList⟩], none, none⟩
    let forged : Request := ⟨"GET", "/", [
      ⟨"x-forwarded-for", [0x31, 0xFF, 0x2C, 0x31]⟩, ⟨"x-real-ip", [0x31, 0x0B]⟩],
      some (.v6 0x2001 0xdb8 0 0 0 0 0 1), some ⟨.v4 127 0 0 1, 80⟩⟩
    behind.Names .forwardedFor "2001:db8::1" ∧ blank.Names .realIp "2001:db8::1" ∧
      forged.Names .resolved "2001:db8::1" ∧ ',' ∉ behind.client.toList ∧
      behind.client = blank.client ∧ behind.client = forged.client := by
  intro behind blank forged
  have hbehind : behind.Names .forwardedFor "2001:db8::1" :=
    names_iff.2 ⟨[], _, rfl, by decide +kernel, by decide +kernel⟩
  have hblank : blank.Names .realIp "2001:db8::1" :=
    names_iff.2 ⟨[.forwardedFor], _, rfl, by decide +kernel, by decide +kernel⟩
  have hforged : forged.Names .resolved "2001:db8::1" :=
    names_iff.2 ⟨[.forwardedFor, .realIp], _, rfl, by decide +kernel, by decide +kernel⟩
  obtain ⟨-, -, -, -, hcomma, hsame⟩ := client_named behind
  exact ⟨hbehind, hblank, hforged, hcomma _ hbehind,
    hsame blank .forwardedFor .realIp _ hbehind hblank,
    hsame forged .forwardedFor .resolved _ hbehind hforged⟩

end Request

end Http
end Throttle
