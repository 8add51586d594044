import DocSite.Command.Invocation
import DocSite.Proofs.Except

/-!
# Options that are left out

An option with a value stands in one word or in two neighbouring words. Without these words a
command is given the same, except for the option.
-/

namespace DocSite.Command

variable {command : CommandSpec}

/-! ## What is given -/

namespace Given

variable {given more : Given} {option : OptionSpec} {name other value : Text}

/-- What is given, without one of the options. -/
def without (given : Given) (name : Text) : Given :=
  { given with options := given.options.filter (·.1 ≠ name) }

theorem without_eq_self (absent : given.value? name = none) : given.without name = given := by
  have others : given.options.filter (·.1 ≠ name) = given.options := by
    refine List.filter_eq_self.mpr fun pair member => ?_
    have different := bne_iff_ne.mp (List.lookup_eq_none_iff.mp absent pair member)
    exact decide_eq_true different.symm
  rw [without, others]

theorem lookup_filter_ne (options : List (Text × Text)) (name other : Text) :
    (options.filter (·.1 ≠ name)).lookup other =
      if other = name then none else options.lookup other := by
  induction options with
  | nil => exact (ite_self none).symm
  | cons pair options induction =>
      obtain ⟨key, value⟩ := pair
      rw [List.filter_cons, List.lookup_cons]
      by_cases dropped : key = name
      · rw [if_neg (by simpa using dropped), induction]
        grind
      · rw [if_pos (by simpa using dropped), List.lookup_cons, induction]
        grind

theorem value?_without (given : Given) (name other : Text) :
    (given.without name).value? other = if other = name then none else given.value? other :=
  lookup_filter_ne given.options name other

theorem has_without_of_ne (different : other ≠ name) :
    (given.without name).has other = given.has other := by
  rw [has, value?_without, if_neg different]
  rfl

theorem addOption_eq_ok_iff : given.addOption option value = .ok more ↔
    given.value? option.name = none ∧ option.kind.accepts value ∧
      more = { given with options := given.options ++ [(option.name, value)] } := by
  rw [addOption, has]
  cases given.value? option.name with
  | some old => simp
  | none => cases option.kind.accepts value <;> simp [eq_comm]

theorem value?_of_addOption (added : given.addOption option value = .ok more) (other : Text) :
    more.value? other =
      (given.value? other).or (if other = option.name then some value else none) := by
  obtain ⟨-, -, rfl⟩ := addOption_eq_ok_iff.mp added
  rw [value?, List.lookup_append]
  by_cases same : other = option.name
  · rw [if_pos same, List.lookup_cons, same, beq_self_eq_true]
    rfl
  · rw [if_neg same, List.lookup_cons, beq_false_of_ne same]
    rfl

/-- An option that is given already does not stand in the way of others. -/
theorem addOption_without (added : given.addOption option value = .ok more)
    (different : option.name ≠ name) :
    (given.without name).addOption option value = .ok (more.without name) := by
  obtain ⟨absent, accepted, rfl⟩ := addOption_eq_ok_iff.mp added
  refine addOption_eq_ok_iff.mpr ⟨?_, accepted, ?_⟩
  · rw [value?_without, if_neg different, absent]
  · rw [without, without, List.filter_append, List.filter_cons_of_pos (by simpa using different)]
    rfl

theorem without_of_addOption (added : given.addOption option value = .ok more) :
    more.without option.name = given := by
  obtain ⟨absent, -, rfl⟩ := addOption_eq_ok_iff.mp added
  have same := without_eq_self absent
  rw [without] at same ⊢
  rw [List.filter_append, List.filter_cons_of_neg (by simp), List.filter_nil, List.append_nil]
  exact same

theorem value?_of_addOperands {words : List Text}
    (added : given.addOperands command words = .ok more) (other : Text) :
    more.value? other = given.value? other := by
  rw [addOperands] at added
  split at added
  · nomatch added
  · cases added
    rfl

theorem addOperands_without {words : List Text}
    (added : given.addOperands command words = .ok more) (name : Text) :
    (given.without name).addOperands command words = .ok (more.without name) := by
  rw [addOperands] at added ⊢
  split at added
  · nomatch added
  · next few =>
      cases added
      exact if_neg few

end Given

/-! ## What a word stands for -/

/-- What a word stands for. -/
inductive Reading
  /-- An option with its value. -/
  | whole (option : OptionSpec) (value : Text)
  /-- An option whose value is the next word. -/
  | waiting (option : OptionSpec)
  /-- An operand. -/
  | operand (word : Text)

/-- Adds what a word stands for to what is given, and gives the option that waits for its value. -/
def Reading.add (command : CommandSpec) (given : Given) :
    Reading → Except Refusal (Given × Option OptionSpec)
  | whole option value => do return (← given.addOption option value, none)
  | waiting option => .ok (given, some option)
  | operand word => do return (← given.addOperands command [word], none)

/-- What a word of a command stands for, when an option may be waiting for its value. -/
inductive Stands (command : CommandSpec) : Option OptionSpec → Text → Reading → Prop
  | value (option : OptionSpec) (word : Text) :
      Stands command (some option) word (.whole option word)
  | operand (word : Text) : Stands command none word (.operand word)
  | switch {option : OptionSpec} (known : option ∈ command.options) (kind : option.kind = .absent) :
      Stands command none ('-' :: '-' :: option.name) (.whole option [])
  | name {option : OptionSpec} (known : option ∈ command.options) (kind : option.kind ≠ .absent) :
      Stands command none ('-' :: '-' :: option.name) (.waiting option)
  | nameJoined {option : OptionSpec} (value : Text) (known : option ∈ command.options)
      (kind : option.kind ≠ .absent) :
      Stands command none ('-' :: '-' :: option.name ++ '=' :: value) (.whole option value)
  | letter {option : OptionSpec} {letter : Char} (known : option ∈ command.options)
      (isLetter : option.letter = some letter) (kind : option.kind ≠ .absent) :
      Stands command none ['-', letter] (.waiting option)
  | letterJoined {option : OptionSpec} {letter : Char} {value : Text}
      (known : option ∈ command.options) (isLetter : option.letter = some letter)
      (kind : option.kind ≠ .absent) (any : value ≠ []) (plain : value.head? ≠ some '=') :
      Stands command none ('-' :: letter :: value) (.whole option value)
  | letterAssigned {option : OptionSpec} {letter : Char} (value : Text)
      (known : option ∈ command.options) (isLetter : option.letter = some letter)
      (kind : option.kind ≠ .absent) :
      Stands command none ('-' :: letter :: '=' :: value) (.whole option value)

theorem splitName_cases (word : Text) :
    splitName word = (word, none) ∨
      ∃ name value, word = name ++ '=' :: value ∧ splitName word = (name, some value) := by
  have whole := List.takeWhile_append_dropWhile (p := (· != '=')) (l := word)
  have behind : word.drop (word.takeWhile (· != '=')).length = word.dropWhile (· != '=') := by
    have parted := List.prefix_iff_eq_append.mp
      (List.takeWhile_prefix (p := (· != '=')) (l := word))
    exact List.append_cancel_left (parted.trans whole.symm)
  rw [splitName, behind]
  cases rest : word.dropWhile (· != '=') with
  | nil =>
      rw [rest, List.append_nil] at whole
      exact .inl (congrArg (·, none) whole)
  | cons c value =>
      have isEquals : c = '=' := by
        have first := List.head?_dropWhile_not (· != '=') word
        simpa [rest] using first
      rw [rest, isEquals] at whole
      exact .inr ⟨_, value, whole.symm, rfl⟩

theorem exists_stands_of_takeName {given : Given} {word : Text} {result : Given × Option OptionSpec}
    (taken : takeName command given word = .ok result) :
    ∃ reading, Stands command none ('-' :: '-' :: word) reading ∧
      ∀ given, takeName command given word = reading.add command given := by
  have known : (splitName word).1 ≠ helpName ∧
      ∃ option, command.options.find? (·.name = (splitName word).1) = some option := by
    unfold takeName at taken
    generalize splitName word = parts at taken ⊢
    obtain ⟨name, value?⟩ := parts
    dsimp only at taken ⊢
    split at taken
    · nomatch taken
    · next noHelp =>
        cases found : command.options.find? (·.name = name) with
        | none =>
            rw [found] at taken
            nomatch taken
        | some option => exact ⟨noHelp, option, rfl⟩
  obtain ⟨noHelp, option, found⟩ := known
  have member := List.mem_of_find?_eq_some found
  have isName : option.name = (splitName word).1 := by
    simpa using List.find?_some found
  unfold takeName at taken ⊢
  simp only [if_neg noHelp, found] at taken ⊢
  obtain parts | ⟨name, value, rfl, parts⟩ := splitName_cases word
  · rw [parts] at isName
    simp only [parts]
    subst isName
    by_cases kind : option.kind = .absent
    · exact ⟨_, .switch member kind, fun given => if_pos kind⟩
    · exact ⟨_, .name member kind, fun given => if_neg kind⟩
  · rw [parts] at isName
    simp only [parts] at taken ⊢
    subst isName
    split at taken
    · nomatch taken
    · next kind => exact ⟨_, .nameJoined _ member kind, fun given => if_neg kind⟩

/-- All letters of a command stand for options with values. -/
def LettersHaveValues (command : CommandSpec) : Prop :=
  ∀ option ∈ command.options, option.letter.isSome → option.kind ≠ .absent

theorem exists_stands_of_takeLetters (valued : LettersHaveValues command) {given : Given}
    {letter : Char} {letters : Text} {result : Given × Option OptionSpec}
    (taken : takeLetters command given (letter :: letters) = .ok result) :
    ∃ reading, Stands command none ('-' :: letter :: letters) reading ∧
      ∀ given, takeLetters command given (letter :: letters) = reading.add command given := by
  have known : letter ≠ helpLetter ∧
      ∃ option, command.options.find? (·.letter = some letter) = some option := by
    rw [takeLetters] at taken
    split at taken
    · nomatch taken
    · next noHelp =>
        cases found : command.options.find? (·.letter = some letter) with
        | none =>
            rw [found] at taken
            nomatch taken
        | some option => exact ⟨noHelp, option, rfl⟩
  obtain ⟨noHelp, option, found⟩ := known
  have member := List.mem_of_find?_eq_some found
  have isLetter : option.letter = some letter := by
    simpa using List.find?_some found
  have kind := valued option member (Option.isSome_of_eq_some isLetter)
  simp only [takeLetters, if_neg noHelp, found, if_neg kind]
  split
  · exact ⟨_, .letter member isLetter kind, fun given => rfl⟩
  · exact ⟨_, .letterAssigned _ member isLetter kind, fun given => rfl⟩
  · next any plain =>
      refine ⟨_, .letterJoined member isLetter kind any fun first => ?_, fun given => rfl⟩
      obtain ⟨value, rfl⟩ := List.head?_eq_some_iff.mp first
      exact plain value rfl

/-- Each word is taken for what it stands for, whatever is given and whatever follows. Only behind
two hyphens alone all words are operands. -/
theorem takeWords_cons_cases (valued : LettersHaveValues command) {waiting : Option OptionSpec}
    {given result : Given} {word : Text} {rest : List Text}
    (taken : takeWords command waiting given (word :: rest) = .ok result) :
    (waiting = none ∧ word = ['-', '-'] ∧ given.addOperands command rest = .ok result) ∨
      ∃ reading, Stands command waiting word reading ∧
        ∀ given rest, takeWords command waiting given (word :: rest) =
          reading.add command given >>= fun after => takeWords command after.2 after.1 rest := by
  generalize whole : word :: rest = words at taken
  fun_cases takeWords command waiting given words with
  | case1 | case2 => nomatch whole
  | case3 => nomatch taken
  | case4 =>
      cases whole
      exact .inl ⟨rfl, rfl, taken⟩
  | case5 rest word named =>
      cases whole
      rw [takeWords] at taken
      · obtain ⟨after, ofName, -⟩ := Except.bind_eq_ok_iff.mp taken
        obtain ⟨reading, stands, same⟩ := exists_stands_of_takeName ofName
        refine .inr ⟨reading, stands, fun given rest => ?_⟩
        rw [takeWords, same]
        exact named
      · exact named
  | case6 rest letter letters lettered short =>
      cases whole
      rw [takeWords] at taken
      · obtain ⟨after, ofLetters, -⟩ := Except.bind_eq_ok_iff.mp taken
        obtain ⟨reading, stands, same⟩ := exists_stands_of_takeLetters valued ofLetters
        refine .inr ⟨reading, stands, fun given rest => ?_⟩
        rw [takeWords, same]
        · exact lettered
        · exact short
      · exact lettered
      · exact short
  | case7 rest value option plain =>
      cases whole
      refine .inr ⟨_, .value option word, fun given rest => ?_⟩
      rw [takeWords, Reading.add, bind_assoc]
      · rfl
      · exact plain
  | case8 rest operand noEnd noName noLetters =>
      cases whole
      refine .inr ⟨_, .operand word, fun given rest => ?_⟩
      rw [takeWords, Reading.add, bind_assoc]
      · rfl
      · exact noEnd
      · exact noName
      · exact noLetters

theorem takeWords_waiting (valued : LettersHaveValues command) {option : OptionSpec}
    {given result : Given} {words : List Text}
    (taken : takeWords command (some option) given words = .ok result) :
    ∃ value rest more, words = value :: rest ∧ given.addOption option value = .ok more ∧
      takeWords command none more rest = .ok result := by
  cases words with
  | nil =>
      rw [takeWords, Option.isSome_some, if_pos rfl] at taken
      nomatch taken
  | cons value rest =>
      obtain ⟨isNone, -⟩ | ⟨reading, stands, step⟩ := takeWords_cons_cases valued taken
      · nomatch isNone
      · cases stands
        rw [step] at taken
        obtain ⟨after, added, behind⟩ := Except.bind_eq_ok_iff.mp taken
        obtain ⟨more, isMore, same⟩ := Except.bind_eq_ok_iff.mp added
        cases same
        exact ⟨value, rest, more, rfl, isMore, behind⟩

/-! ## Leaving out an option -/

theorem Reading.add_without {reading : Reading} {given : Given} {name value : Text}
    {after : Given × Option OptionSpec} (isGiven : given.value? name = some value)
    (added : reading.add command given = .ok after) :
    reading.add command (given.without name) = .ok (after.1.without name, after.2) ∧
      after.1.value? name = some value := by
  cases reading with
  | waiting option =>
      cases added
      exact ⟨rfl, isGiven⟩
  | whole option new =>
      obtain ⟨more, isMore, same⟩ := Except.bind_eq_ok_iff.mp added
      cases same
      have different : option.name ≠ name := by
        rintro rfl
        rw [(Given.addOption_eq_ok_iff.mp isMore).1] at isGiven
        nomatch isGiven
      rw [Given.value?_of_addOption isMore, isGiven, Reading.add,
        Given.addOption_without isMore different]
      exact ⟨rfl, rfl⟩
  | operand word =>
      obtain ⟨more, isMore, same⟩ := Except.bind_eq_ok_iff.mp added
      cases same
      rw [Given.value?_of_addOperands isMore, Reading.add, Given.addOperands_without isMore]
      exact ⟨rfl, isGiven⟩

/-- An option that is given already has no part in how the words behind it are taken. -/
theorem takeWords_without (valued : LettersHaveValues command) {waiting : Option OptionSpec}
    {given result : Given} {words : List Text} {name value : Text}
    (isGiven : given.value? name = some value)
    (taken : takeWords command waiting given words = .ok result) :
    takeWords command waiting (given.without name) words = .ok (result.without name) ∧
      result.value? name = some value := by
  induction words generalizing waiting given with
  | nil =>
      rw [takeWords] at taken ⊢
      split at taken
      · nomatch taken
      · next idle =>
          cases taken
          exact ⟨if_neg idle, isGiven⟩
  | cons word words induction =>
      obtain ⟨rfl, rfl, operands⟩ | ⟨reading, -, step⟩ := takeWords_cons_cases valued taken
      · rw [takeWords, Given.addOperands_without operands, Given.value?_of_addOperands operands]
        exact ⟨rfl, isGiven⟩
      · rw [step] at taken ⊢
        obtain ⟨after, added, behind⟩ := Except.bind_eq_ok_iff.mp taken
        obtain ⟨without, stillGiven⟩ := Reading.add_without isGiven added
        rw [without]
        exact induction stillGiven behind

/-- Words that give an option a value, by its name or its letter. -/
inductive Gives (name : Text) (letter : Char) (value : Text) : List Text → Prop
  | name : Gives name letter value ['-' :: '-' :: name, value]
  | nameJoined : Gives name letter value ['-' :: '-' :: name ++ '=' :: value]
  | letter : Gives name letter value [['-', letter], value]
  | letterJoined (any : value ≠ []) (plain : value.head? ≠ some '=') :
      Gives name letter value ['-' :: letter :: value]
  | letterAssigned : Gives name letter value ['-' :: letter :: '=' :: value]

section Gives

variable (valued : LettersHaveValues command) {option : OptionSpec} (kind : option.kind ≠ .absent)
  (only : ∀ other ∈ command.options, other.name = option.name → other = option)
  {letter : Char} (isLetter : option.letter = some letter)

include kind only isLetter in
theorem gives_of_stands_whole {other : OptionSpec} {word value : Text}
    (stands : Stands command none word (.whole other value)) (same : other.name = option.name) :
    other = option ∧ Gives option.name letter value [word] := by
  cases stands with
  | switch known absent =>
      cases only other known same
      exact (kind absent).elim
  | nameJoined _ known =>
      cases only other known same
      exact ⟨rfl, .nameJoined⟩
  | letterJoined known ofLetter _ any plain =>
      cases only other known same
      cases isLetter.symm.trans ofLetter
      exact ⟨rfl, .letterJoined any plain⟩
  | letterAssigned _ known ofLetter =>
      cases only other known same
      cases isLetter.symm.trans ofLetter
      exact ⟨rfl, .letterAssigned⟩

include only isLetter in
theorem gives_of_stands_waiting {other : OptionSpec} {word : Text}
    (stands : Stands command none word (.waiting other)) (same : other.name = option.name) :
    other = option ∧ ∀ value, Gives option.name letter value [word, value] := by
  cases stands with
  | name known =>
      cases only other known same
      exact ⟨rfl, fun _ => .name⟩
  | letter known ofLetter =>
      cases only other known same
      cases isLetter.symm.trans ofLetter
      exact ⟨rfl, fun _ => .letter⟩

include valued in
theorem takeWords_behind {given more result : Given} {words : List Text} {value new : Text}
    (added : given.addOption option new = .ok more)
    (behind : takeWords command none more words = .ok result)
    (present : result.value? option.name = some value) :
    new = value ∧ takeWords command none given words = .ok (result.without option.name) := by
  have absent := (Given.addOption_eq_ok_iff.mp added).1
  have isGiven : more.value? option.name = some new := by
    rw [Given.value?_of_addOption added, absent, if_pos rfl]
    rfl
  obtain ⟨without, same⟩ := takeWords_without valued isGiven behind
  rw [Given.without_of_addOption added] at without
  exact ⟨Option.some.inj (same.symm.trans present), without⟩

include valued kind only isLetter in
/-- Where an option is given in words, and what is given without these words. -/
theorem exists_gives {waiting : Option OptionSpec} {given result : Given} {words : List Text}
    {value : Text} (elsewhere : ∀ other, waiting = some other → other.name ≠ option.name)
    (absent : given.value? option.name = none)
    (taken : takeWords command waiting given words = .ok result)
    (present : result.value? option.name = some value) :
    ∃ before own after, words = before ++ own ++ after ∧
      Gives option.name letter value own ∧
      takeWords command waiting given (before ++ after) = .ok (result.without option.name) := by
  induction words generalizing waiting given with
  | nil =>
      rw [takeWords] at taken
      split at taken
      · nomatch taken
      · cases taken
        nomatch absent.symm.trans present
  | cons word words induction =>
      obtain ⟨rfl, rfl, operands⟩ | ⟨reading, stands, step⟩ := takeWords_cons_cases valued taken
      · rw [Given.value?_of_addOperands operands, absent] at present
        nomatch present
      rw [step] at taken
      obtain ⟨⟨more, next⟩, added, behind⟩ := Except.bind_eq_ok_iff.mp taken
      have goOn (nextElsewhere : ∀ other, next = some other → other.name ≠ option.name)
          (stillAbsent : more.value? option.name = none) :
          ∃ before own after, word :: words = before ++ own ++ after ∧
            Gives option.name letter value own ∧
            takeWords command waiting given (before ++ after) =
              .ok (result.without option.name) := by
        obtain ⟨before, own, after, rfl, gives, left⟩ := induction nextElsewhere stillAbsent behind
        refine ⟨word :: before, own, after, rfl, gives, ?_⟩
        rw [List.cons_append, step, added]
        exact left
      cases reading with
      | operand word =>
          obtain ⟨more, isMore, same⟩ := Except.bind_eq_ok_iff.mp added
          cases same
          exact goOn nofun ((Given.value?_of_addOperands isMore _).trans absent)
      | whole other new =>
          obtain ⟨more, isMore, same⟩ := Except.bind_eq_ok_iff.mp added
          cases same
          by_cases own : other.name = option.name
          · cases waiting with
            | some waits =>
                cases stands
                exact (elsewhere _ rfl own).elim
            | none =>
                obtain ⟨rfl, gives⟩ := gives_of_stands_whole kind only isLetter stands own
                obtain ⟨rfl, left⟩ := takeWords_behind valued isMore behind present
                exact ⟨[], _, words, rfl, gives, left⟩
          · refine goOn nofun ?_
            rw [Given.value?_of_addOption isMore, absent, if_neg (Ne.symm own)]
            rfl
      | waiting other =>
          cases added
          by_cases own : other.name = option.name
          · cases waiting with
            | some waits => nomatch stands
            | none =>
                obtain ⟨rfl, gives⟩ := gives_of_stands_waiting only isLetter stands own
                obtain ⟨new, rest, more, rfl, isMore, behind⟩ := takeWords_waiting valued behind
                obtain ⟨rfl, left⟩ := takeWords_behind valued isMore behind present
                exact ⟨[], _, rest, rfl, gives new, left⟩
          · exact goOn (fun _ same => Option.some.inj same ▸ own) absent

end Gives

/-! ## Commands -/

/-- The words of a command are its name and what it takes. -/
theorem exists_given_of_ofWords {environment : Environment} {words : List Text} {asked : Command}
    (isCommand : ofWords environment words = .ok asked) :
    ∃ spec ∈ specs, ∃ rest given, words = spec.name :: rest ∧
      takeWords spec none {} rest = .ok given ∧ asked = ofGiven environment spec given := by
  cases words with
  | nil => nomatch isCommand
  | cons word rest =>
      rw [ofWords] at isCommand
      split at isCommand
      · next spec found =>
          have isName : spec.name = word := by simpa using List.find?_some found
          obtain ⟨given, taken, same⟩ := Except.bind_eq_ok_iff.mp isCommand
          cases same
          exact ⟨spec, List.mem_of_find?_eq_some found, rest, given,
            congrArg (· :: rest) isName.symm, taken, rfl⟩
      · nomatch isCommand

end DocSite.Command
