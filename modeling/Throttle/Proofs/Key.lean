import Mathlib.Data.List.Forall2
import Throttle.Key

/-!
# Names of counters

A method without a colon leaves none in the name of its counter, so the last colon of that name
separates the client from the method, whatever the client is called.  Main statement: such names are
equal only if the keys are.
-/

namespace Throttle

namespace Text

theorem dropTrailing_sublist {α : Type} (p : α → Bool) (as : List α) :
    (dropTrailing p as).Sublist as := by
  induction as with
  | nil => exact List.Sublist.refl _
  | cons a as ih =>
      rw [dropTrailing]
      split
      · split
        · exact List.nil_sublist _
        · exact (List.nil_sublist _).cons_cons a
      · next b bs h =>
          rw [h] at ih
          exact ih.cons_cons a

theorem trim_sublist (s : String) : (trim s).toList.Sublist s.toList := by
  rw [trim, String.toList_ofList, trimChars]
  exact (dropTrailing_sublist isBlank _).trans (List.dropWhile_sublist _)

theorem eq_colon_of_toUpper {c : Char} (hupper : c.toUpper = ':') : c = ':' := by
  rcases toUpper_cases c with hsame | ⟨hlow, hhigh, hshift⟩
  · rw [← hsame, hupper]
  · rw [hupper] at hshift
    have hcolon : ':'.toNat = 58 := rfl
    omega

theorem dropTrailing_map {α β : Type} (f : α → β) (p : β → Bool) (as : List α) :
    dropTrailing p (as.map f) = (dropTrailing (p ∘ f) as).map f := by
  induction as with
  | nil => rfl
  | cons a as ih =>
      rw [List.map_cons, dropTrailing, dropTrailing, ih]
      cases dropTrailing (p ∘ f) as with
      | nil => by_cases hp : p (f a) = true <;> simp [hp]
      | cons b bs => rfl

theorem isBlank_toUpper (c : Char) : isBlank c.toUpper = isBlank c := by
  rcases toUpper_cases c with hsame | ⟨hlow, hhigh, hshift⟩
  · rw [hsame]
  · have hletter : ∀ n < 123, 65 ≤ n → isBlank (Char.ofNat n) = false := by decide
    have hupper := hletter c.toUpper.toNat (by omega) (by omega)
    have hc := hletter c.toNat (by omega) (by omega)
    rw [Char.ofNat_toNat] at hupper hc
    rw [hupper, hc]

theorem trim_asciiUpper (s : String) : trim (asciiUpper s) = asciiUpper (trim s) := by
  have hblank : isBlank ∘ Char.toUpper = isBlank := funext isBlank_toUpper
  simp only [trim, asciiUpper, trimChars, String.toList_ofList]
  rw [List.dropWhile_map, hblank, dropTrailing_map, hblank]

/-- Characters that are the same, or the same ASCII letter in its two cases. -/
def SameLetter (c d : Char) : Prop :=
  c = d ∨ (97 ≤ d.toNat ∧ d.toNat ≤ 122 ∧ c.toNat + 32 = d.toNat) ∨
    97 ≤ c.toNat ∧ c.toNat ≤ 122 ∧ d.toNat + 32 = c.toNat

/-- Texts that are the same but for the case of ASCII letters. -/
def SameButForCase (s t : String) : Prop := List.Forall₂ SameLetter s.toList t.toList

instance (c d : Char) : Decidable (SameLetter c d) :=
  inferInstanceAs (Decidable (_ ∨ _))

instance (s t : String) : Decidable (SameButForCase s t) :=
  inferInstanceAs (Decidable (List.Forall₂ _ _ _))

theorem toUpper_of_capital {c d : Char} (hlow : 97 ≤ d.toNat) (hhigh : d.toNat ≤ 122)
    (hshift : c.toNat + 32 = d.toNat) : c.toUpper = c ∧ d.toUpper = c := by
  have hletters : ∀ n < 123, 97 ≤ n →
      (Char.ofNat (n - 32)).toUpper = Char.ofNat (n - 32) ∧
        (Char.ofNat n).toUpper = Char.ofNat (n - 32) := by
    decide
  have hletter := hletters d.toNat (by omega) hlow
  have hc : d.toNat - 32 = c.toNat := by omega
  rwa [hc, Char.ofNat_toNat, Char.ofNat_toNat] at hletter

theorem toUpper_eq_toUpper_iff {c d : Char} : c.toUpper = d.toUpper ↔ SameLetter c d := by
  constructor
  · intro hupper
    rcases toUpper_cases c with hc | ⟨hlow, hhigh, hshift⟩
    · rcases toUpper_cases d with hd | ⟨hlow', hhigh', hshift'⟩
      · exact .inl (by rw [← hc, hupper, hd])
      · rw [← hupper, hc] at hshift'
        exact .inr (.inl ⟨hlow', hhigh', by omega⟩)
    · rcases toUpper_cases d with hd | ⟨hlow', hhigh', hshift'⟩
      · rw [hupper, hd] at hshift
        exact .inr (.inr ⟨hlow, hhigh, by omega⟩)
      · rw [hupper] at hshift
        exact .inl (Char.toNat_inj.1 (by omega))
  · rintro (rfl | ⟨hlow, hhigh, hshift⟩ | ⟨hlow, hhigh, hshift⟩)
    · rfl
    · obtain ⟨hc, hd⟩ := toUpper_of_capital hlow hhigh hshift
      rw [hc, hd]
    · obtain ⟨hd, hc⟩ := toUpper_of_capital hlow hhigh hshift
      rw [hc, hd]

theorem asciiUpper_eq_iff {s t : String} : asciiUpper s = asciiUpper t ↔ SameButForCase s t := by
  have hmap : ∀ cs ds : List Char,
      cs.map Char.toUpper = ds.map Char.toUpper ↔ List.Forall₂ SameLetter cs ds := by
    intro cs
    induction cs with
    | nil => intro ds; cases ds <;> simp
    | cons c cs ih =>
        intro ds
        cases ds with
        | nil => simp
        | cons d ds =>
            rw [List.map_cons, List.map_cons, List.cons.injEq, List.forall₂_cons, ih,
              toUpper_eq_toUpper_iff]
  rw [asciiUpper, asciiUpper, String.ofList_inj, hmap, SameButForCase]

end Text

theorem normalMethod_normalMethod (method : String) :
    normalMethod (normalMethod method) = normalMethod method := by
  rw [normalMethod, normalMethod, Text.trim_asciiUpper, Text.trim_trim, Text.asciiUpper_asciiUpper]

/-- A method as HTTP has them: without a colon. -/
def HasNoColon (method : String) : Prop := ':' ∉ method.toList

instance (method : String) : Decidable (HasNoColon method) :=
  inferInstanceAs (Decidable (':' ∉ method.toList))

theorem HasNoColon.normalMethod {method : String} (hcolon : HasNoColon method) :
    HasNoColon (normalMethod method) := by
  intro hmem
  rw [Throttle.normalMethod, Text.asciiUpper, String.toList_ofList, List.mem_map] at hmem
  obtain ⟨c, hc, hupper⟩ := hmem
  rw [Text.eq_colon_of_toUpper hupper] at hc
  exact hcolon ((Text.trim_sublist method).subset hc)

/-- Lists are equal part by part if they are divided at the last place of an element. -/
theorem append_cons_inj_of_last {α : Type} {a : α} {front front' back back' : List α}
    (hback : a ∉ back) (hback' : a ∉ back') (heq : front ++ a :: back = front' ++ a :: back') :
    front = front' ∧ back = back' := by
  rcases List.append_eq_append_iff.1 heq with ⟨rest, hfront, hrest⟩ | ⟨rest, hfront, hrest⟩
  · cases rest with
    | nil => simp_all
    | cons c rest =>
        rw [List.cons_append, List.cons.injEq] at hrest
        exact absurd (by simp [hrest.2]) hback
  · cases rest with
    | nil => simp_all
    | cons c rest =>
        rw [List.cons_append, List.cons.injEq] at hrest
        exact absurd (by simp [hrest.2]) hback'

/-- Lists are equal part by part if they are divided at the first place of an element. -/
theorem append_cons_inj_of_first {α : Type} {a : α} {front front' back back' : List α}
    (hfront : a ∉ front) (hfront' : a ∉ front') (heq : front ++ a :: back = front' ++ a :: back') :
    front = front' ∧ back = back' := by
  have hreverse := congrArg List.reverse heq
  simp only [List.reverse_append, List.reverse_cons, List.append_assoc,
    List.singleton_append] at hreverse
  obtain ⟨hback, hfront⟩ := append_cons_inj_of_last (by rwa [List.mem_reverse])
    (by rwa [List.mem_reverse]) hreverse
  exact ⟨List.reverse_inj.1 hfront, List.reverse_inj.1 hback⟩

namespace CounterKey

theorem localName_inj {key key' : CounterKey} (hkey : HasNoColon key.method)
    (hkey' : HasNoColon key'.method) : key.localName = key'.localName ↔ key = key' := by
  constructor
  · intro hname
    have hlists := congrArg String.toList hname
    simp only [localName, String.toList_append, List.append_assoc] at hlists
    obtain ⟨hclient, hmethod⟩ := append_cons_inj_of_last hkey hkey' hlists
    cases key
    cases key'
    simp_all [String.toList_inj]
  · rintro rfl
    rfl

/-- Under one prefix the names in the shared counter are as different as those in this process. -/
theorem sharedName_eq_iff {key key' : CounterKey} (keyPrefix : String) :
    key.sharedName keyPrefix = key'.sharedName keyPrefix ↔ key.localName = key'.localName :=
  String.append_right_inj _

theorem of_eq_of_iff {client client' method method' : String} :
    of client method = of client' method' ↔ Text.trim client = Text.trim client' ∧
      Text.SameButForCase (Text.trim method) (Text.trim method') := by
  rw [of, of, mk.injEq, normalMethod, normalMethod, Text.asciiUpper_eq_iff]

/-- A key that is built again from its parts is the same key. -/
theorem of_parts (client method : String) :
    of (of client method).client (of client method).method = of client method := by
  simp only [of, Text.trim_trim, normalMethod_normalMethod]

theorem localName_beq {key key' : CounterKey} (hkey : HasNoColon key.method)
    (hkey' : HasNoColon key'.method) : (key.localName == key'.localName) = decide (key = key') := by
  rw [Bool.eq_iff_iff, beq_iff_eq, decide_eq_true_iff, localName_inj hkey hkey']

end CounterKey

theorem MethodClass.of_normalMethod (method : String) :
    MethodClass.of (normalMethod method) = MethodClass.of method := by
  rw [MethodClass.of, normalMethod_normalMethod, MethodClass.of]

theorem MethodClass.of_eq_of_key_eq {client client' method method' : String}
    (hkey : CounterKey.of client method = .of client' method') :
    MethodClass.of method = MethodClass.of method' := by
  rw [CounterKey.of, CounterKey.of, CounterKey.mk.injEq] at hkey
  rw [of, hkey.2, of]

end Throttle
