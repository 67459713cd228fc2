import Throttle.Cli.Arguments
import Mathlib.Data.List.Induction
import Mathlib.Data.List.Nodup

/-!
# What arguments are read

Arguments are read exactly if they are settings, none of them twice, perhaps with two hyphens alone
at the end.  The value of a setting stands behind an equals sign or in an argument of its own, which
then must not look like an option.  Main statement: `Options.read_eq_ok_iff`.
-/

namespace Throttle.Cli

/-! ## Settings as arguments -/

/-- A setting among the arguments: a value that stands in an argument of its own, a value behind an
equals sign, or the option that has none. -/
inductive Item where
  | apart (option : OptionName) (value : String)
  | joined (option : OptionName) (value : String)
  | flag

namespace Item

def option : Item → OptionName
  | apart option _ | joined option _ => option
  | flag => .logJson

def value? : Item → Option String
  | apart _ value | joined _ value => some value
  | flag => none

def arguments : Item → List String
  | apart option value => ["--" ++ option.word, value]
  | joined option value => ["--" ++ option.word ++ "=" ++ value]
  | flag => ["--log-json"]

end Item

/-- An argument that is no option: it does not begin with a hyphen, or is nothing but one. -/
def IsWord (argument : String) : Prop :=
  argument.toList.head? = some '-' → argument = "-"

/-- The values of an option: a file has a name, and an address is one. -/
def OptionName.Takes : OptionName → String → Prop
  | config, value => value ≠ ""
  | listen, value => (Net.SocketAddress.parse? value).isSome
  | _, _ => False

theorem OptionName.Takes.takesValue {option : OptionName} {value : String}
    (h : option.Takes value) : option.takesValue = true := by
  cases option with
  | config | listen => rfl
  | logJson | help | version => exact absurd h id

def Item.IsWellFormed : Item → Prop
  | apart option value => option.Takes value ∧ IsWord value
  | joined option value => option.Takes value
  | flag => True

/-- Settings of which none is given twice. -/
structure AreWellFormed (items : List Item) : Prop where
  each : ∀ item ∈ items, item.IsWellFormed
  nodup : (items.map Item.option).Nodup

/-- The value that an option is given. -/
def valueOf (option : OptionName) (items : List Item) : Option String :=
  (items.find? (·.option = option)).bind Item.value?

theorem valueOf_concat_of_ne (option : OptionName) {item : Item} (h : item.option ≠ option)
    (items : List Item) : valueOf option (items ++ [item]) = valueOf option items := by
  simp [valueOf, List.find?_append, h]

theorem valueOf_concat_self {item : Item} {items : List Item}
    (hfresh : item.option ∉ items.map Item.option) :
    valueOf item.option (items ++ [item]) = item.value? := by
  have hnone : items.find? (·.option = item.option) = none := by
    rw [List.find?_eq_none]
    intro other hother hsame
    apply hfresh
    rw [← of_decide_eq_true hsame]
    exact List.mem_map_of_mem hother
  simp [valueOf, List.find?_append, hnone]

namespace AreWellFormed

theorem nil : AreWellFormed [] where
  each := by simp
  nodup := List.nodup_nil

variable {items : List Item}

theorem concat (h : AreWellFormed items) (item : Item) (hitem : item.IsWellFormed)
    (hfresh : item.option ∉ items.map Item.option) : AreWellFormed (items ++ [item]) where
  each := by
    intro other hother
    rcases List.mem_append.1 hother with hother | hother
    · exact h.each other hother
    · rw [List.mem_singleton.1 hother]
      exact hitem
  nodup := by
    rw [List.map_append, List.map_singleton, List.nodup_append]
    refine ⟨h.nodup, List.nodup_singleton _, ?_⟩
    intro option hoption other hother heq
    rw [heq, List.mem_singleton.1 hother] at hoption
    exact hfresh hoption

theorem of_concat {item : Item} (h : AreWellFormed (items ++ [item])) :
    AreWellFormed items ∧ item.IsWellFormed ∧ item.option ∉ items.map Item.option := by
  have hnodup := h.nodup
  rw [List.map_append, List.map_singleton] at hnodup
  refine ⟨⟨fun other hother => ?_, hnodup.of_append_left⟩, ?_, fun hmem => ?_⟩
  · exact h.each other (List.mem_append_left _ hother)
  · exact h.each item (List.mem_append_right _ (List.mem_singleton_self item))
  · exact (List.nodup_append.1 hnodup).2.2 _ hmem _ (List.mem_singleton_self _) rfl

end AreWellFormed

namespace Scan

/-! ## Settling -/

/-- What was read of settings, the last of which is settled. -/
def ofItems (items : List Item) : Scan where
  config := valueOf .config items
  listen := (valueOf .listen items).bind Net.SocketAddress.parse?
  used := items.map Item.option

theorem used_ofItems (items : List Item) : (ofItems items).used = items.map Item.option := rfl

theorem use_ofItems {option : OptionName} {items : List Item}
    (hfresh : option ∉ items.map Item.option) :
    (ofItems items).use option =
      ({ ofItems items with used := items.map Item.option ++ [option] }, none) := by
  rw [use, used_ofItems, if_neg hfresh]

theorem settleWith_ofItems {items : List Item} {item : Item} {option : OptionName} {value : String}
    (hoption : item.option = option) (hvalue : item.value? = some value)
    (htakes : option.Takes value) (hfresh : option ∉ items.map Item.option) :
    (ofItems items).settleWith option value = (ofItems (items ++ [item]), none) := by
  have hown := valueOf_concat_self (hoption ▸ hfresh)
  rw [hvalue, hoption] at hown
  rw [settleWith, use_ofItems hfresh]
  cases option with
  | config =>
      have hlisten := valueOf_concat_of_ne .listen (by rw [hoption]; decide) items
      have hempty : value.isEmpty = false := by simpa [OptionName.Takes] using htakes
      simp [setValue, hempty, ofItems, hown, hlisten, hoption]
  | listen =>
      have hconfig := valueOf_concat_of_ne .config (by rw [hoption]; decide) items
      obtain ⟨address, haddress⟩ := Option.isSome_iff_exists.1 htakes
      simp [setValue, haddress, ofItems, hown, hconfig, hoption]
  | logJson => exact absurd htakes id
  | help => exact absurd htakes id
  | version => exact absurd htakes id

theorem use_flag {items : List Item} (hfresh : .logJson ∉ items.map Item.option) :
    (ofItems items).use .logJson = (ofItems (items ++ [.flag]), none) := by
  have hconfig : valueOf .config (items ++ [.flag]) = valueOf .config items :=
    valueOf_concat_of_ne .config (by decide) items
  have hlisten : valueOf .listen (items ++ [.flag]) = valueOf .listen items :=
    valueOf_concat_of_ne .listen (by decide) items
  rw [use_ofItems hfresh]
  simp [ofItems, hconfig, hlisten, Item.option]

/-- Only a value that the option takes can be settled, and only once. -/
theorem of_settleWith {items : List Item} {option : OptionName} {value : String} {next : Scan}
    (htakes : option.takesValue = true)
    (hsettled : (ofItems items).settleWith option value = (next, none)) :
    option ∉ items.map Item.option ∧ option.Takes value := by
  have hfresh : option ∉ items.map Item.option := by
    intro hused
    rw [settleWith, use, used_ofItems, if_pos hused] at hsettled
    cases hsettled
  rw [settleWith, use_ofItems hfresh] at hsettled
  refine ⟨hfresh, ?_⟩
  cases option with
  | config =>
      rintro rfl
      cases hsettled
  | listen =>
      cases hparsed : Net.SocketAddress.parse? value with
      | none => simp [setValue, hparsed] at hsettled
      | some address => simp [OptionName.Takes, hparsed]
  | logJson => cases htakes
  | help => cases htakes
  | version => cases htakes

/-! ## Single arguments -/

theorem ofWord?_word (option : OptionName) : OptionName.ofWord? option.word = some option := by
  cases option <;> decide

theorem eq_word_of_ofWord? {word : String} {option : OptionName}
    (h : OptionName.ofWord? word = some option) : word = option.word := by
  rw [OptionName.ofWord?] at h
  have hsame := List.find?_some h
  exact (eq_of_beq hsame).symm

theorem takeWhile_word (option : OptionName) (rest : List Char) :
    (option.word.toList ++ '=' :: rest).takeWhile (· != '=') = option.word.toList := by
  have hplain : ∀ c ∈ option.word.toList, (c != '=') = true := by
    rw [← List.all_eq_true]
    cases option <;> decide
  rw [List.takeWhile_append_of_pos hplain, List.takeWhile_cons_of_neg (by decide), List.append_nil]

section Read

variable {scan : Scan} (hopen : scan.wordsOnly = false)

include hopen

theorem readArgument_long (option : OptionName) :
    scan.readArgument ("--" ++ option.word) = scan.readLong option.word none := by
  rw [readArgument, hopen]
  cases option <;> rfl

theorem readArgument_joined (option : OptionName) (value : String) :
    scan.readArgument ("--" ++ option.word ++ "=" ++ value) =
      scan.readLong option.word (some value) := by
  have hargument : ("--" ++ option.word ++ "=" ++ value).toList =
      '-' :: '-' :: (option.word.toList ++ '=' :: value.toList) := by
    simp [String.toList_append]
  have hword := takeWhile_word option value.toList
  rw [readArgument, hopen, hargument]
  cases option <;> simp_all

omit hopen in
theorem readArgument_of_wordsOnly (hwords : scan.wordsOnly = true) (argument : String) :
    scan.readArgument argument = scan.readWord argument := by
  rw [readArgument, if_pos hwords]

theorem readArgument_word {argument : String} (hword : IsWord argument) :
    scan.readArgument argument = scan.readWord argument := by
  by_cases hhead : argument.toList.head? = some '-'
  · rw [hword hhead, readArgument, hopen]
    rfl
  · rw [readArgument, hopen]
    cases hargument : argument.toList with
    | nil => rfl
    | cons c cs =>
        have hc : c ≠ '-' := by
          rintro rfl
          exact hhead (by rw [hargument]; rfl)
        simp [hc]

theorem readArgument_hyphens :
    scan.readArgument "--" = .ok { scan with wordsOnly := true } := by
  rw [readArgument, hopen]
  rfl

end Read

/-- An argument is a word, or has options in letters behind one hyphen, or has anything behind two
hyphens. -/
theorem argument_cases (argument : String) :
    IsWord argument ∨
      (∃ letter letters, letter ≠ '-' ∧ argument.toList = '-' :: letter :: letters) ∨
      ∃ word, argument = "--" ++ word := by
  cases hargument : argument.toList with
  | nil => exact .inl (by simp [IsWord, hargument])
  | cons c cs =>
      by_cases hc : c = '-'
      · subst hc
        cases cs with
        | nil =>
            refine .inl fun _ => ?_
            rw [← String.ofList_toList (s := argument), hargument]
        | cons d ds =>
            by_cases hd : d = '-'
            · subst hd
              refine .inr (.inr ⟨String.ofList ds, ?_⟩)
              rw [← String.toList_inj, hargument]
              simp
            · exact .inr (.inl ⟨d, ds, hd, rfl⟩)
      · exact .inl (by simp [IsWord, hargument, hc])

theorem readFlag_ne_ok {scan : Scan} {option : OptionName} (hletter : ∃ c,
    OptionName.ofLetter? c = some option) (next : Scan) : scan.readFlag option ≠ .ok next := by
  obtain ⟨c, hc⟩ := hletter
  have hoption : option = .help ∨ option = .version := by
    rw [OptionName.ofLetter?] at hc
    split at hc
    · exact .inl (Option.some.inj hc).symm
    · split at hc
      · exact .inr (Option.some.inj hc).symm
      · cases hc
  intro hread
  rw [readFlag] at hread
  rcases hsettled : goOn scan.settle with stop | settled
  · rw [hsettled] at hread
    cases hread
  · rw [hsettled] at hread
    rcases hoption with rfl | rfl <;> cases hread

/-- An option that is written as a letter leaves nothing more to be read. -/
theorem readArgument_letters {scan : Scan} (hopen : scan.wordsOnly = false) {argument : String}
    {letter : Char} {letters : List Char} (hletter : letter ≠ '-')
    (hargument : argument.toList = '-' :: letter :: letters) (next : Scan) :
    scan.readArgument argument ≠ .ok next := by
  intro hread
  have hletters : scan.readArgument argument = scan.readLetters (letter :: letters) := by
    rw [readArgument, hopen, hargument]
    simp [hletter]
  rw [hletters, readLetters] at hread
  cases hoption : OptionName.ofLetter? letter with
  | none =>
      rw [hoption] at hread
      cases hread
  | some option =>
      rw [hoption] at hread
      dsimp only at hread
      rcases hflag : scan.readFlag option with stop | settled
      · rw [hflag] at hread
        cases hread
      · exact readFlag_ne_ok ⟨letter, hoption⟩ settled hflag

/-- What stands behind two hyphens is the word of an option, perhaps with a value. -/
theorem long_cases {scan next : Scan} (hopen : scan.wordsOnly = false) {word : String}
    (hword : word ≠ "") (hread : scan.readArgument ("--" ++ word) = .ok next) :
    ∃ option : OptionName, word = option.word ∧ scan.readLong option.word none = .ok next ∨
      ∃ value, word = option.word ++ "=" ++ value ∧
        scan.readLong option.word (some value) = .ok next := by
  have hlong : scan.readArgument ("--" ++ word) =
      scan.readLong (String.ofList (word.toList.takeWhile (· != '=')))
        ((word.toList.drop (word.toList.takeWhile (· != '=')).length).tail?.map String.ofList) := by
    rw [readArgument, hopen]
    cases hcs : word.toList with
    | nil => exact absurd (String.toList_eq_nil_iff.1 hcs) hword
    | cons c cs =>
        have hdashes : ("--" ++ word).toList = '-' :: '-' :: c :: cs := by
          rw [String.toList_append, hcs]
          rfl
        simp only [hdashes, Bool.false_eq_true, if_false]
        cases (c :: cs).drop ((c :: cs).takeWhile (· != '=')).length <;> rfl
  have hsplit : word.toList = word.toList.takeWhile (· != '=') ++ word.toList.dropWhile (· != '=') :=
    List.takeWhile_append_dropWhile.symm
  have hback := List.head?_dropWhile_not (· != '=') word.toList
  rw [hlong] at hread
  generalize word.toList.takeWhile (· != '=') = front at hsplit hread
  generalize word.toList.dropWhile (· != '=') = back at hsplit hback
  rw [hsplit, List.drop_left] at hread
  have hoption : ∃ option : OptionName, String.ofList front = option.word := by
    cases hfound : OptionName.ofWord? (String.ofList front) with
    | none =>
        rw [readLong, hfound] at hread
        cases hread
    | some option => exact ⟨option, eq_word_of_ofWord? hfound⟩
  obtain ⟨option, hoption⟩ := hoption
  refine ⟨option, ?_⟩
  rw [hoption] at hread
  cases back with
  | nil =>
      refine .inl ⟨?_, hread⟩
      rw [← hoption, ← String.toList_inj, hsplit]
      simp
  | cons c value =>
      have hc : c = '=' := by simpa using hback
      refine .inr ⟨String.ofList value, ?_, hread⟩
      rw [← hoption, ← String.toList_inj, hsplit, hc]
      simp

/-! ## Runs -/

theorem goOn_eq_ok_iff {result : Scan × Option ArgumentFault} {next : Scan} :
    goOn result = .ok next ↔ result = (next, none) := by
  obtain ⟨settled, fault⟩ := result
  cases fault <;> simp [goOn]

theorem bind_goOn_eq_ok_iff {α : Type} {result : Scan × Option ArgumentFault}
    {f : Scan → Except Stop α} {a : α} :
    (goOn result >>= f) = .ok a ↔ ∃ settled, result = (settled, none) ∧ f settled = .ok a := by
  obtain ⟨settled, fault⟩ := result
  cases fault with
  | none =>
      show f settled = .ok a ↔ _
      simp
  | some fault =>
      show Except.error (Stop.refused fault) = .ok a ↔ _
      simp

section ReadLong

variable {scan next : Scan} {option : OptionName}

theorem readLong_some_eq_ok_iff {value : String} :
    scan.readLong option.word (some value) = .ok next ↔
      option.takesValue = true ∧ ∃ settled, scan.settle = (settled, none) ∧
        settled.settleWith option value = (next, none) := by
  rw [readLong, ofWord?_word]
  dsimp only
  cases htakes : option.takesValue with
  | false => simp
  | true =>
      simp only [true_and]
      rw [bind_goOn_eq_ok_iff]
      simp only [goOn_eq_ok_iff]

theorem readLong_none_eq_ok_iff :
    scan.readLong option.word none = .ok next ↔
      ∃ settled, scan.settle = (settled, none) ∧
        (option.takesValue = true ∧ next = { settled with pending := some (option, none) } ∨
          option = .logJson ∧ settled.use .logJson = (next, none)) := by
  rw [readLong, ofWord?_word]
  dsimp only
  cases htakes : option.takesValue with
  | true =>
      rw [bind_goOn_eq_ok_iff]
      have hoption : option ≠ .logJson := by
        rintro rfl
        cases htakes
      simp [hoption, eq_comm, pure, Except.pure]
  | false =>
      rw [readFlag, bind_goOn_eq_ok_iff]
      cases option with
      | config => cases htakes
      | listen => cases htakes
      | logJson => simp [goOn_eq_ok_iff]
      | help => simp
      | version => simp

end ReadLong

/-- What arguments were read as: settings, the last of which may not be settled yet or may still
lack its value; after two hyphens alone nothing changes that. -/
inductive Reached : List String → Scan → Prop
  | settled {items : List Item} (h : AreWellFormed items) :
      Reached (items.flatMap Item.arguments) (ofItems items)
  | waiting {items : List Item} (h : AreWellFormed items) {option : OptionName}
      (htakes : option.takesValue = true) :
      Reached (items.flatMap Item.arguments ++ ["--" ++ option.word])
        { ofItems items with pending := some (option, none) }
  | given {items : List Item} (h : AreWellFormed items) {option : OptionName} {value : String}
      (htakes : option.takesValue = true) (hword : IsWord value) :
      Reached (items.flatMap Item.arguments ++ ["--" ++ option.word, value])
        { ofItems items with pending := some (option, some value) }
  | closed {arguments : List String} {scan : Scan} (h : Reached arguments scan)
      (hopen : scan.wordsOnly = false) :
      Reached (arguments ++ ["--"]) { scan with wordsOnly := true }

namespace Reached

variable {arguments : List String} {scan next : Scan}

theorem of_settle (h : Reached arguments scan) (hopen : scan.wordsOnly = false)
    (hsettled : scan.settle = (next, none)) :
    ∃ items, AreWellFormed items ∧ arguments = items.flatMap Item.arguments ∧
      next = ofItems items := by
  cases h with
  | settled hitems =>
      injection hsettled with hnext
      exact ⟨_, hitems, rfl, hnext.symm⟩
  | waiting hitems => cases hsettled
  | @given items hitems option value htakes hword =>
      have hsettled : (ofItems items).settleWith option value = (next, none) := hsettled
      obtain ⟨hfresh, hvalue⟩ := of_settleWith htakes hsettled
      have hitem : (Item.apart option value).IsWellFormed := ⟨hvalue, hword⟩
      have hown : (ofItems items).settleWith option value =
          (ofItems (items ++ [.apart option value]), none) :=
        settleWith_ofItems rfl rfl hvalue hfresh
      rw [hown] at hsettled
      injection hsettled with hnext
      refine ⟨items ++ [.apart option value], hitems.concat (.apart option value) hitem hfresh, ?_,
        hnext.symm⟩
      rw [List.flatMap_append, List.flatMap_singleton]
      rfl
  | closed => cases hopen

/-- A further setting, read after those before it were settled. -/
theorem concat {items : List Item} (hitems : AreWellFormed items) (item : Item)
    (hitem : item.IsWellFormed) (hfresh : item.option ∉ items.map Item.option) :
    Reached (items.flatMap Item.arguments ++ item.arguments) (ofItems (items ++ [item])) := by
  have h := settled (hitems.concat item hitem hfresh)
  rwa [List.flatMap_append, List.flatMap_singleton] at h

/-- A word is the value of the option before it, which has none yet. -/
theorem word (h : Reached arguments scan) (hopen : scan.wordsOnly = false) {argument : String}
    (hword : IsWord argument) (hread : scan.readWord argument = .ok next) :
    Reached (arguments ++ [argument]) next := by
  cases h with
  | settled => cases hread
  | waiting hitems htakes =>
      injection hread with hnext
      rw [← hnext, List.append_assoc]
      exact given hitems htakes hword
  | given => cases hread
  | closed => cases hopen

theorem step (h : Reached arguments scan) {argument : String}
    (hread : scan.readArgument argument = .ok next) : Reached (arguments ++ [argument]) next := by
  cases hopen : scan.wordsOnly with
  | true =>
      rw [readArgument_of_wordsOnly hopen, readWord, hopen] at hread
      cases hread
  | false =>
      rcases argument_cases argument with hword | ⟨letter, letters, hletter, hletters⟩ | ⟨word, rfl⟩
      · rw [readArgument_word hopen hword] at hread
        exact h.word hopen hword hread
      · exact absurd hread (readArgument_letters hopen hletter hletters next)
      · by_cases hword : word = ""
        · subst hword
          rw [show "--" ++ "" = "--" from rfl, readArgument_hyphens hopen] at hread
          injection hread with hnext
          rw [← hnext]
          exact h.closed hopen
        · obtain ⟨option, ⟨rfl, hlong⟩ | ⟨value, rfl, hlong⟩⟩ := long_cases hopen hword hread
          · obtain ⟨settled, hsettled, hnext⟩ := readLong_none_eq_ok_iff.1 hlong
            obtain ⟨items, hitems, rfl, rfl⟩ := h.of_settle hopen hsettled
            rcases hnext with ⟨htakes, rfl⟩ | ⟨rfl, hused⟩
            · exact waiting hitems htakes
            · have hfresh : .logJson ∉ items.map Item.option := by
                intro hmem
                rw [use, used_ofItems, if_pos hmem] at hused
                cases hused
              rw [use_flag hfresh] at hused
              injection hused with hnext
              rw [← hnext]
              exact concat hitems .flag trivial hfresh
          · obtain ⟨htakes, settled, hsettled, hnext⟩ := readLong_some_eq_ok_iff.1 hlong
            obtain ⟨items, hitems, rfl, rfl⟩ := h.of_settle hopen hsettled
            obtain ⟨hfresh, hvalue⟩ := of_settleWith htakes hnext
            have hown : (ofItems items).settleWith option value =
                (ofItems (items ++ [.joined option value]), none) :=
              settleWith_ofItems rfl rfl hvalue hfresh
            rw [hown] at hnext
            injection hnext with hnext
            rw [← hnext, ← String.append_assoc, ← String.append_assoc]
            exact concat hitems (.joined option value) hvalue hfresh

end Reached

theorem foldlM_singleton (scan : Scan) (argument : String) :
    [argument].foldlM readArgument scan = scan.readArgument argument := by
  simp only [List.foldlM_cons, List.foldlM_nil, bind_pure]

theorem reached_of_foldlM {arguments : List String} :
    ∀ {scan : Scan}, arguments.foldlM readArgument {} = .ok scan → Reached arguments scan := by
  induction arguments using List.reverseRecOn with
  | nil =>
      rintro scan hread
      injection hread with hscan
      rw [← hscan]
      exact .settled AreWellFormed.nil
  | append_singleton arguments argument ih =>
      rintro next hread
      rw [List.foldlM_append] at hread
      cases hbefore : arguments.foldlM readArgument ({} : Scan) with
      | error stop =>
          rw [hbefore] at hread
          cases hread
      | ok scan =>
          rw [hbefore] at hread
          have hlast : [argument].foldlM readArgument scan = .ok next := hread
          rw [foldlM_singleton] at hlast
          exact (ih hbefore).step hlast

theorem read_concat {scan : Scan} (hopen : scan.wordsOnly = false) {items : List Item}
    (hsettled : scan.settle = (ofItems items, none)) (item : Item) (hitem : item.IsWellFormed)
    (hfresh : item.option ∉ items.map Item.option) :
    ∃ next, item.arguments.foldlM readArgument scan = .ok next ∧ next.wordsOnly = false ∧
      next.settle = (ofItems (items ++ [item]), none) := by
  cases item with
  | apart option value =>
      obtain ⟨htakes, hword⟩ := hitem
      have hwaits : scan.readArgument ("--" ++ option.word) =
          .ok { ofItems items with pending := some (option, none) } := by
        rw [readArgument_long hopen, readLong_none_eq_ok_iff]
        exact ⟨_, hsettled, .inl ⟨htakes.takesValue, rfl⟩⟩
      refine ⟨{ ofItems items with pending := some (option, some value) }, ?_, rfl, ?_⟩
      · show (scan.readArgument ("--" ++ option.word) >>= fun scan =>
          [value].foldlM readArgument scan) = _
        rw [hwaits]
        show [value].foldlM readArgument { ofItems items with pending := some (option, none) } = _
        rw [foldlM_singleton, readArgument_word rfl hword]
        rfl
      · exact settleWith_ofItems rfl rfl htakes hfresh
  | joined option value =>
      have hread : scan.readArgument ("--" ++ option.word ++ "=" ++ value) =
          .ok (ofItems (items ++ [.joined option value])) := by
        rw [readArgument_joined hopen, readLong_some_eq_ok_iff]
        exact ⟨OptionName.Takes.takesValue hitem, _, hsettled,
          settleWith_ofItems rfl rfl hitem hfresh⟩
      refine ⟨ofItems (items ++ [.joined option value]), ?_, rfl, rfl⟩
      rw [Item.arguments, foldlM_singleton]
      exact hread
  | flag =>
      have hread : scan.readArgument ("--" ++ OptionName.logJson.word) =
          .ok (ofItems (items ++ [.flag])) := by
        rw [readArgument_long hopen, readLong_none_eq_ok_iff]
        exact ⟨_, hsettled, .inr ⟨rfl, use_flag hfresh⟩⟩
      refine ⟨ofItems (items ++ [.flag]), ?_, rfl, rfl⟩
      rw [Item.arguments, foldlM_singleton]
      exact hread

theorem read_items {items : List Item} (h : AreWellFormed items) :
    ∃ scan, (items.flatMap Item.arguments).foldlM readArgument {} = .ok scan ∧
      scan.wordsOnly = false ∧ scan.settle = (ofItems items, none) := by
  induction items using List.reverseRecOn with
  | nil => exact ⟨{}, rfl, rfl, rfl⟩
  | append_singleton items item ih =>
      obtain ⟨hitems, hitem, hfresh⟩ := h.of_concat
      obtain ⟨scan, hread, hopen, hsettled⟩ := ih hitems
      obtain ⟨next, hnext, hnextOpen, hnextSettled⟩ := read_concat hopen hsettled item hitem hfresh
      refine ⟨next, ?_, hnextOpen, hnextSettled⟩
      rw [List.flatMap_append, List.flatMap_singleton, List.foldlM_append, hread]
      exact hnext

/-- To settle has nothing to do with what may follow. -/
theorem settle_wordsOnly (scan : Scan) (wordsOnly : Bool) :
    settle { scan with wordsOnly } = ({ scan.settle.1 with wordsOnly }, scan.settle.2) := by
  obtain ⟨config, listen, used, pending, before⟩ := scan
  rcases pending with - | ⟨option, - | value⟩
  · rfl
  · rfl
  · simp only [settle, settleWith, use]
    by_cases hused : option ∈ used
    · simp [hused]
    · cases option with
      | config => by_cases hempty : value.isEmpty <;> simp [hused, setValue, hempty]
      | listen => cases hparsed : Net.SocketAddress.parse? value <;> simp [hused, setValue, hparsed]
      | logJson | help | version => simp [hused, setValue]

theorem foldlM_hyphens {arguments : List String} {scan : Scan}
    (hread : arguments.foldlM readArgument {} = .ok scan) (hopen : scan.wordsOnly = false) :
    (arguments ++ ["--"]).foldlM readArgument {} = .ok { scan with wordsOnly := true } := by
  rw [List.foldlM_append, hread]
  exact (foldlM_singleton scan "--").trans (readArgument_hyphens hopen)

/-- What stands behind the settings after which only words may follow. -/
def closing (wordsOnly : Bool) : List String := if wordsOnly then ["--"] else []

/-- Arguments that are read to their end are settings, perhaps with two hyphens behind them. -/
theorem settle_eq_ok_iff (arguments : List String) (final : Scan) :
    (∃ scan, arguments.foldlM readArgument {} = .ok scan ∧ scan.settle = (final, none)) ↔
      ∃ items wordsOnly, AreWellFormed items ∧
        arguments = items.flatMap Item.arguments ++ closing wordsOnly ∧
        final = { ofItems items with wordsOnly } := by
  constructor
  · rintro ⟨scan, hread, hsettled⟩
    have hreached := reached_of_foldlM hread
    cases hopen : scan.wordsOnly with
    | false =>
        obtain ⟨items, hitems, rfl, rfl⟩ := hreached.of_settle hopen hsettled
        exact ⟨items, false, hitems, (List.append_nil _).symm, rfl⟩
    | true =>
        cases hreached with
        | settled | waiting | given => cases hopen
        | @closed before scan h hbefore =>
            rw [settle_wordsOnly] at hsettled
            injection hsettled with hfinal hfault
            have hwhole : scan.settle = (scan.settle.1, none) := by rw [← hfault]
            obtain ⟨items, hitems, rfl, hitemsRead⟩ := h.of_settle hbefore hwhole
            refine ⟨items, true, hitems, rfl, ?_⟩
            rw [← hfinal, hitemsRead]
  · rintro ⟨items, wordsOnly, hitems, rfl, rfl⟩
    obtain ⟨scan, hread, hopen, hsettled⟩ := read_items hitems
    cases wordsOnly with
    | false =>
      exact ⟨scan, by rw [closing, if_neg Bool.false_ne_true, List.append_nil, hread], hsettled⟩
    | true =>
        refine ⟨_, foldlM_hyphens hread hopen, ?_⟩
        rw [settle_wordsOnly, hsettled]

end Scan

/-! ## Options -/

/-- The address to serve is that of the setting, or else of the environment, and is one if either
gives any. -/
def IsServed (items : List Item) (environment : Option String) (address : Net.SocketAddress) :
    Prop :=
  ((valueOf .listen items).or environment).elim (address = Options.defaultListen) fun text =>
    Net.SocketAddress.parse? text = some address

theorem mem_flag_iff {items : List Item} (h : AreWellFormed items) :
    .logJson ∈ items.map Item.option ↔ .flag ∈ items := by
  constructor
  · intro hmem
    obtain ⟨item, hitem, hoption⟩ := List.mem_map.1 hmem
    have hwell := h.each item hitem
    cases item with
    | apart option value => exact absurd (hoption ▸ hwell.1 : OptionName.Takes .logJson value) id
    | joined option value => exact absurd (hoption ▸ hwell : OptionName.Takes .logJson value) id
    | flag => exact hitem
  · exact fun hmem => List.mem_map.2 ⟨.flag, hmem, rfl⟩

theorem takes_of_valueOf {items : List Item} (h : AreWellFormed items) {option : OptionName}
    {value : String} (hvalue : valueOf option items = some value) : option.Takes value := by
  obtain ⟨item, hfound, hitem⟩ := Option.bind_eq_some_iff.1 hvalue
  have hsame := List.find?_some hfound
  have hoption : item.option = option := of_decide_eq_true hsame
  have hwell := h.each item (List.mem_of_find?_eq_some hfound)
  cases item with
  | apart other text =>
      injection hitem with htext
      exact hoption ▸ htext ▸ hwell.1
  | joined other text =>
      injection hitem with htext
      exact hoption ▸ htext ▸ hwell
  | flag => cases hitem

namespace Options

variable {arguments : List String} {environment : Option String} {scan final : Scan}

/-- The address to serve, if the arguments give one or none, under an environment. -/
def served (listen : Option Net.SocketAddress) (environment : Option String) :
    Except Stop Net.SocketAddress :=
  match listen, environment with
  | some address, _ => .ok address
  | none, none => .ok defaultListen
  | none, some text =>
    match Net.SocketAddress.parse? text with
    | some address => .ok address
    | none => .error (.refused (.invalidValue .listen text))

theorem read_of_settle (hread : arguments.foldlM Scan.readArgument {} = .ok scan)
    (hsettled : scan.settle = (final, none)) :
    read arguments environment = (served final.listen environment).map fun address =>
      ⟨final.config, address, final.used.contains .logJson⟩ := by
  rw [read, hread]
  show (Scan.goOn scan.settle >>= _) = _
  rw [hsettled]
  obtain ⟨config, listen, used, pending, wordsOnly⟩ := final
  cases listen with
  | some address => cases environment <;> rfl
  | none =>
      cases environment with
      | none => rfl
      | some text =>
          show (Scan.goOn (Scan.setValue _ .listen text) >>= _) = _
          rw [Scan.setValue, served]
          cases Net.SocketAddress.parse? text <;> rfl

theorem isServed_iff {items : List Item} (hitems : AreWellFormed items)
    (address : Net.SocketAddress) :
    IsServed items environment address ↔
      served (Scan.ofItems items).listen environment = .ok address := by
  rw [IsServed, Scan.ofItems]
  cases hlisten : valueOf .listen items with
  | some text =>
      obtain ⟨given, hgiven⟩ := Option.isSome_iff_exists.1 (takes_of_valueOf hitems hlisten)
      simp [served, hgiven]
  | none =>
      cases environment with
      | none => simp [served, eq_comm]
      | some text => cases hparsed : Net.SocketAddress.parse? text <;> simp [served, hparsed]

theorem read_of_items {items : List Item} (hitems : AreWellFormed items) {wordsOnly : Bool}
    (hread : arguments.foldlM Scan.readArgument {} = .ok scan)
    (hsettled : scan.settle = ({ Scan.ofItems items with wordsOnly }, none)) (options : Options) :
    read arguments environment = .ok options ↔
      options.config = valueOf .config items ∧ IsServed items environment options.listen ∧
        (options.logJson = true ↔ .flag ∈ items) := by
  have hflag : (items.map Item.option).contains .logJson = true ↔ .flag ∈ items := by
    rw [List.contains_iff_mem, mem_flag_iff hitems]
  rw [read_of_settle hread hsettled, isServed_iff hitems, ← hflag]
  show (served (Scan.ofItems items).listen environment).map _ = _ ↔ _
  obtain ⟨config, listen, logJson⟩ := options
  cases served (Scan.ofItems items).listen environment with
  | error stop => simp [Except.map]
  | ok address =>
      show Except.ok (⟨valueOf .config items, address, _⟩ : Options) = _ ↔ _
      rw [Except.ok.injEq, Options.mk.injEq, Except.ok.injEq, ← Bool.eq_iff_iff, eq_comm,
        @eq_comm _ logJson]
      rfl

/-- Arguments are read to options exactly if they are settings, none of them twice, perhaps with two
hyphens behind them; the options are those of the settings.  The address of the environment counts
only where the arguments give none. -/
theorem read_eq_ok_iff {options : Options} :
    read arguments environment = .ok options ↔
      ∃ items wordsOnly, AreWellFormed items ∧
        arguments = items.flatMap Item.arguments ++ Scan.closing wordsOnly ∧
        options.config = valueOf .config items ∧ IsServed items environment options.listen ∧
        (options.logJson = true ↔ .flag ∈ items) := by
  constructor
  · intro hread
    have hsettled : ∃ scan final, arguments.foldlM Scan.readArgument {} = .ok scan ∧
        scan.settle = (final, none) := by
      cases hscan : arguments.foldlM Scan.readArgument ({} : Scan) with
      | error stop =>
          rw [read, hscan] at hread
          cases hread
      | ok scan =>
          rw [read, hscan] at hread
          rcases hfinal : scan.settle with ⟨final, - | fault⟩
          · exact ⟨scan, final, rfl, hfinal⟩
          · have hstop : (Scan.goOn scan.settle >>= _) = Except.ok options := hread
            rw [hfinal] at hstop
            cases hstop
    obtain ⟨scan, final, hscan, hfinal⟩ := hsettled
    obtain ⟨items, wordsOnly, hitems, harguments, rfl⟩ :=
      (Scan.settle_eq_ok_iff arguments final).1 ⟨scan, hscan, hfinal⟩
    exact ⟨items, wordsOnly, hitems, harguments,
      (read_of_items hitems hscan hfinal options).1 hread⟩
  · rintro ⟨items, wordsOnly, hitems, harguments, hoptions⟩
    obtain ⟨scan, hscan, hfinal⟩ :=
      (Scan.settle_eq_ok_iff arguments _).2 ⟨items, wordsOnly, hitems, harguments, rfl⟩
    exact (read_of_items hitems hscan hfinal options).2 hoptions

end Options

end Throttle.Cli
