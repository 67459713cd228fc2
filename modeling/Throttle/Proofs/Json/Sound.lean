import Throttle.Proofs.Json.RoundTrip

/-!
# Reading only what denotes something

Where every part of a value has to denote something and a depth is given, a reader accepts nothing
that it does not accept otherwise.  Main statement: `readSound_of_read?`, a text of which every part
denotes something is read to the same value as long as it is not nested too deep.
-/

namespace Throttle.Json

/-- Values of which every part denotes something, nested no deeper than this. -/
inductive IsSound : Nat → Json → Prop where
  | null (depth : Nat) : IsSound depth .null
  | bool (depth : Nat) (b : Bool) : IsSound depth (.bool b)
  | number (depth : Nat) (n : Number) : IsSound depth (.number n)
  | text (depth : Nat) (s : String) : IsSound depth (.text s)
  | list {depth : Nat} {items : List Json} (hitems : ∀ item ∈ items, IsSound depth item) :
      IsSound (depth + 1) (.list items)
  | object {depth : Nat} {fields : List (String × Json)}
      (hfields : ∀ field ∈ fields, IsSound depth field.2) : IsSound (depth + 1) (.object fields)

theorem IsSound.ne_broken {depth : Nat} {j : Json} (h : IsSound depth j) : j ≠ .broken := by
  rintro rfl
  cases h

theorem exists_of_bind {ε α β : Type} {x : Except ε α} {f : α → Except ε β} {b : β}
    (h : (x >>= f) = .ok b) : ∃ a, x = .ok a ∧ f a = .ok b := by
  cases x with
  | error e => cases h
  | ok a => exact ⟨a, rfl, h⟩

/-- What denotes something is read with a depth as without. -/
theorem orBroken_agrees {fault : Fault} {j? : Option Json} {rest : List Char} {j : Json}
    {after : List Char} (depth : Nat) (hj : j ≠ .broken)
    (h : (do return (← orBroken none fault j?, rest)) = Except.ok (j, after)) :
    (do return (← orBroken (some depth) fault j?, rest)) = Except.ok (j, after) := by
  cases j? with
  | none =>
      injection h with h
      injection h with h _
      exact absurd h.symm hj
  | some k => exact h

/-- At this fuel the reader with a depth reads what the other one reads. -/
structure Agrees (fuel : Nat) : Prop where
  value : ∀ {depth : Nat} {cs rest : List Char} {j : Json}, IsSound depth j →
    readValue none fuel cs = .ok (j, rest) → readValue (some depth) fuel cs = .ok (j, rest)
  items : ∀ {depth : Nat} {cs rest : List Char} {items : List Json},
    (∀ item ∈ items, IsSound depth item) → readItems none fuel cs = .ok (items, rest) →
      readItems (some depth) fuel cs = .ok (items, rest)
  fields : ∀ {depth : Nat} {cs rest : List Char} {fields : List (String × Json)},
    (∀ field ∈ fields, IsSound depth field.2) → readFields none fuel cs = .ok (some fields, rest) →
      readFields (some depth) fuel cs = .ok (some fields, rest)

theorem agrees_zero : Agrees 0 where
  value := by
    intro depth cs rest j _ h
    rw [readValue] at h
    cases h
  items := by
    intro depth cs rest items _ h
    rw [readItems] at h
    cases h
  fields := by
    intro depth cs rest fields _ h
    rw [readFields] at h
    cases h

theorem readValue_agrees {fuel depth : Nat} (ih : Agrees fuel) {cs rest : List Char} {j : Json}
    (hj : IsSound depth j) (h : readValue none (fuel + 1) cs = .ok (j, rest)) :
    readValue (some depth) (fuel + 1) cs = .ok (j, rest) := by
  rw [readValue] at h ⊢
  generalize skipBlanks cs = ds at h ⊢
  split at h
  · exact h
  · exact h
  · exact h
  · next cs =>
    obtain ⟨⟨s, after⟩, hread, h⟩ := exists_of_bind h
    rw [hread]
    exact orBroken_agrees depth hj.ne_broken h
  · next inside =>
    rw [if_neg (by decide)] at h
    split at h
    · cases h
    · next after hinside =>
      injection h with h
      injection h with hvalue hrest
      subst hvalue hrest
      cases hj with
      | list _ => rw [if_neg (by simp)]
    · obtain ⟨⟨items, after⟩, hread, h⟩ := exists_of_bind h
      injection h with h
      injection h with hvalue hrest
      subst hvalue hrest
      cases hj with
      | list hitems =>
        rw [if_neg (by simp)]
        show (readItems (some (_ + 1 - 1)) fuel _ >>= _) = _
        rw [Nat.add_sub_cancel, ih.items hitems hread]
        rfl
  · next inside =>
    rw [if_neg (by decide)] at h
    split at h
    · cases h
    · injection h with h
      injection h with hvalue hrest
      subst hvalue hrest
      cases hj with
      | object _ => rw [if_neg (by simp)]
    · obtain ⟨⟨fields?, after⟩, hread, h⟩ := exists_of_bind h
      injection h with h
      injection h with hvalue hrest
      subst hrest
      cases fields? with
      | none => exact absurd hvalue.symm hj.ne_broken
      | some fields =>
          cases hvalue
          cases hj with
          | object hfields =>
            rw [if_neg (by simp)]
            show (readFields (some (_ + 1 - 1)) fuel _ >>= _) = _
            rw [Nat.add_sub_cancel, ih.fields hfields hread]
            rfl
    · cases h
  · obtain ⟨⟨n, after⟩, hread, h⟩ := exists_of_bind h
    rw [hread]
    exact orBroken_agrees depth hj.ne_broken h

theorem readItems_agrees {fuel depth : Nat} (ih : Agrees fuel) {cs rest : List Char}
    {items : List Json} (hitems : ∀ item ∈ items, IsSound depth item)
    (h : readItems none (fuel + 1) cs = .ok (items, rest)) :
    readItems (some depth) (fuel + 1) cs = .ok (items, rest) := by
  rw [readItems] at h ⊢
  obtain ⟨⟨item, after⟩, hread, h⟩ := exists_of_bind h
  dsimp only at h
  split at h
  · cases h
  · next hclose =>
    injection h with h
    injection h with hvalue hrest
    subst hvalue hrest
    rw [ih.value (hitems item List.mem_cons_self) hread, ok_bind]
    dsimp only
    rw [hclose]
    rfl
  · next hcomma =>
    split at h
    · cases h
    · cases h
    · obtain ⟨⟨more, last⟩, hmore, h⟩ := exists_of_bind h
      injection h with h
      injection h with hvalue hrest
      subst hvalue hrest
      rw [ih.value (hitems item List.mem_cons_self) hread]
      simp only [ok_bind, hcomma]
      rw [ih.items (fun other h => hitems other (List.mem_cons_of_mem _ h)) hmore]
      rfl
  · cases h

theorem readFields_agrees {fuel depth : Nat} (ih : Agrees fuel) {cs rest : List Char}
    {fields : List (String × Json)} (hfields : ∀ field ∈ fields, IsSound depth field.2)
    (h : readFields none (fuel + 1) cs = .ok (some fields, rest)) :
    readFields (some depth) (fuel + 1) cs = .ok (some fields, rest) := by
  rw [readFields] at h ⊢
  obtain ⟨⟨name, after⟩, hread, h⟩ := exists_of_bind h
  rw [hread, ok_bind]
  dsimp only at h ⊢
  rw [if_neg (by simp)] at h
  cases name with
  | none =>
      split at h
      · cases h
      · obtain ⟨⟨value, behind⟩, hvalue, h⟩ := exists_of_bind h
        dsimp only [Option.map_none, Option.bind_none] at h
        split at h
        · cases h
        · cases h
        · split at h
          · cases h
          · obtain ⟨⟨more, last⟩, -, h⟩ := exists_of_bind h
            cases h
          · cases h
          · cases h
        · cases h
      · cases h
  | some name =>
      rw [if_neg (by simp)]
      split at h
      · cases h
      · obtain ⟨⟨value, behind⟩, hvalue, h⟩ := exists_of_bind h
        dsimp only [Option.map_some, Option.bind_some] at h
        split at h
        · cases h
        · next hclose =>
          injection h with h
          injection h with hfield hrest
          cases hfield
          rw [ih.value (hfields _ List.mem_cons_self) hvalue, ok_bind]
          dsimp only
          rw [hclose, hrest]
          rfl
        · next hcomma =>
          split at h
          · cases h
          · next hquote =>
            obtain ⟨⟨more, last⟩, hmore, h⟩ := exists_of_bind h
            injection h with h
            injection h with hfield hrest
            cases more with
            | none => cases hfield
            | some more =>
                cases hfield
                have hothers := ih.fields
                  (fun other h => hfields other (List.mem_cons_of_mem _ h)) hmore
                rw [ih.value (hfields _ List.mem_cons_self) hvalue, ← hrest]
                simp only [ok_bind, hcomma, hquote, hothers]
                rfl
          · cases h
          · cases h
        · cases h
      · cases h

theorem agrees (fuel : Nat) : Agrees fuel := by
  induction fuel with
  | zero => exact agrees_zero
  | succ fuel ih => exact ⟨readValue_agrees ih, readItems_agrees ih, readFields_agrees ih⟩

/-- A text of which every part denotes something, not nested too deep, is read to its value. -/
theorem readSound_of_read? {s : String} {j : Json} (hread : read? s = some j)
    (hj : IsSound greatestDepth j) : readSound s = .ok j := by
  have hall : readAll none s.toList = .ok j := by
    rw [read?] at hread
    cases hvalue : readAll none s.toList with
    | error fault =>
        rw [hvalue] at hread
        cases hread
    | ok value =>
        rw [hvalue] at hread
        injection hread with hvalue
        rw [hvalue]
  rw [readAll] at hall
  rw [readSound, readAll]
  obtain ⟨⟨value, rest⟩, hvalue, hrest⟩ := exists_of_bind hall
  have hsame : value = j := by
    dsimp only at hrest
    split at hrest
    · exact Except.ok.inj hrest
    · cases hrest
  rw [(agrees _).value (hsame ▸ hj) hvalue]
  exact hrest

end Throttle.Json
