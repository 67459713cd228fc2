import Throttle.Cli.Text

/-!
# What reaches the terminal

Whatever the arguments and the environment hold, nothing that is answered to the arguments has an
escape character in it, so that no part of it is a control sequence.
-/

namespace Throttle.Cli

/-- A text without escape characters. -/
def IsSafe (s : String) : Prop := ∀ c ∈ s.toList, c.toNat ≠ 0x1B

instance (s : String) : Decidable (IsSafe s) :=
  List.decidableBAll (fun c : Char => c.toNat ≠ 0x1B) s.toList

theorem isSafe_empty : IsSafe "" := by decide

theorem isSafe_append_iff {s t : String} : IsSafe (s ++ t) ↔ IsSafe s ∧ IsSafe t := by
  rw [IsSafe, String.toList_append, List.forall_mem_append]
  exact Iff.rfl

namespace IsSafe

theorem append {s t : String} (hs : IsSafe s) (ht : IsSafe t) : IsSafe (s ++ t) :=
  isSafe_append_iff.2 ⟨hs, ht⟩

theorem intercalate {separator : String} (hseparator : IsSafe separator) {parts : List String}
    (hparts : ∀ part ∈ parts, IsSafe part) : IsSafe (separator.intercalate parts) := by
  induction parts with
  | nil => simp [IsSafe]
  | cons part parts ih =>
      have hpart := hparts part List.mem_cons_self
      cases parts with
      | nil => simpa using hpart
      | cons next parts =>
          have hrest := ih fun other hother => hparts other (List.mem_cons_of_mem _ hother)
          rw [String.intercalate_cons_cons]
          exact (hpart.append hseparator).append hrest

end IsSafe

theorem isSafe_shown (s : String) : IsSafe (Text.Terminal.shown s) := by
  intro c hc
  rw [Text.Terminal.shown, String.toList_ofList] at hc
  exact Text.Terminal.ne_escape_of_mem_showChars _ _ c hc

theorem isSafe_word (option : OptionName) : IsSafe option.word := by
  cases option <;> decide

theorem isSafe_label (option : OptionName) : IsSafe option.label := by
  cases option <;> decide

theorem isSafe_usageOf {parts : List String} (hparts : ∀ part ∈ parts, IsSafe part) :
    IsSafe (usageOf parts) := by
  refine IsSafe.append (by decide) (IsSafe.intercalate (by decide) ?_)
  rw [List.forall_mem_cons]
  exact ⟨by decide, hparts⟩

theorem isSafe_usage (used : List OptionName) : IsSafe (usage used) := by
  apply isSafe_usageOf
  split
  · decide
  · intro part hpart
    obtain ⟨option, -, rfl⟩ := List.mem_map.1 hpart
    exact isSafe_label option

theorem isSafe_usageAmong (option : OptionName) : IsSafe (usageAmong option) := by
  cases option <;> decide

namespace ArgumentFault

theorem isSafe_message (fault : ArgumentFault) : IsSafe fault.message := by
  cases fault with
  | unexpected argument similar used =>
      exact (IsSafe.append (by decide) (isSafe_shown argument)).append (by decide)
  | missingValue option =>
      exact (IsSafe.append (by decide) (isSafe_label option)).append (by decide)
  | invalidValue option value =>
      exact ((((IsSafe.append (by decide) (isSafe_shown value)).append (by decide)).append
        (isSafe_label option)).append (by decide))
  | unneededValue option value isFirst =>
      exact ((((IsSafe.append (by decide) (isSafe_shown value)).append (by decide)).append
        (isSafe_label option)).append (by decide))
  | repeated option =>
      exact (IsSafe.append (by decide) (isSafe_label option)).append (by decide)

theorem isSafe_of_mem_hints (fault : ArgumentFault) : ∀ hint ∈ fault.hints, IsSafe hint := by
  cases fault with
  | unexpected argument similar used =>
      rw [hints, List.forall_mem_append, List.forall_mem_singleton]
      refine ⟨?_, isSafe_usage used⟩
      cases similar with
      | none => simp
      | some option =>
          rw [Option.map_some, Option.toList_some, List.forall_mem_singleton]
          exact (IsSafe.append (by decide) (isSafe_word option)).append (by decide)
  | missingValue | invalidValue => simp [hints]
  | unneededValue option value isFirst =>
      rw [hints, List.forall_mem_singleton]
      split
      · exact isSafe_usage _
      · exact isSafe_usageAmong option
  | repeated option =>
      rw [hints, List.forall_mem_singleton]
      exact isSafe_usage _

theorem isSafe_text (fault : ArgumentFault) : IsSafe fault.text := by
  refine IsSafe.intercalate (by decide) ?_
  rw [List.forall_mem_append, List.forall_mem_cons, List.forall_mem_singleton]
  exact ⟨⟨IsSafe.append (by decide) fault.isSafe_message, fault.isSafe_of_mem_hints⟩, by decide⟩

end ArgumentFault

theorem isSafe_listenExplanation (environment : Option String) :
    IsSafe (listenExplanation environment) := by
  rw [listenExplanation]
  exact isSafe_shown _

theorem isSafe_helpText (environment : Option String) : IsSafe (helpText environment) := by
  unfold helpText
  refine ((((((((IsSafe.append ?_ (isSafe_usage [])).append ?_).append ?_).append ?_).append ?_).append
    (isSafe_listenExplanation environment)).append ?_).append ?_).append ?_ <;> decide +kernel

/-- Nothing that is answered to arguments has an escape character in it. -/
theorem isSafe_exit (stop : Stop) (environment : Option String) :
    IsSafe (stop.exit environment).stdout ∧ IsSafe (stop.exit environment).stderr := by
  cases stop with
  | refused fault => exact ⟨isSafe_empty, fault.isSafe_text⟩
  | help => exact ⟨isSafe_helpText environment, isSafe_empty⟩
  | version =>
      have hversion : IsSafe (programName ++ " " ++ programVersion ++ "\n") := by decide
      exact ⟨hversion, isSafe_empty⟩

end Throttle.Cli
