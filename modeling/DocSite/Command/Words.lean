import DocSite.Text.Basic

/-!
# The words of a command

The words behind the name of a command are options, their values and operands. An option begins with
two hyphens and its name, or with one hyphen and its letter. A value follows in the same word or in
the next one, and letters of options without values may be joined. Behind two hyphens alone there are
only operands.
-/

namespace DocSite.Command

/-! ## What a command takes -/

/-- The kind of value that an option takes. -/
inductive ValueKind
  /-- The option is there or not. -/
  | absent
  /-- Any text. -/
  | text
  /-- The path of a file, which is not empty. -/
  | path
  /-- The number of a port. -/
  | port
  deriving DecidableEq, Repr

/-- An option of a command. -/
structure OptionSpec where
  /-- The name behind two hyphens. -/
  name : Text
  /-- The letter behind one hyphen, if there is one. -/
  letter : Option Char := none
  /-- The kind of its value. -/
  kind : ValueKind := .absent
  /-- The variable of the environment that gives its value when it is missing. -/
  fallback : Option Text := none
  /-- What it is for. -/
  purpose : Text
  deriving DecidableEq, Repr

/-- An operand of a command. -/
structure OperandSpec where
  /-- Its name. -/
  name : Text
  /-- What it is for. -/
  purpose : Text := []
  deriving DecidableEq, Repr

/-- What a command takes. -/
structure CommandSpec where
  /-- The name of the command. -/
  name : Text
  /-- What it does. -/
  purpose : Text
  /-- Its operands, which may be left out from the last one on. -/
  operands : List OperandSpec
  /-- Its options. -/
  options : List OptionSpec
  deriving DecidableEq, Repr

/-- Why the words of a command are not carried out. -/
inductive Refusal
  /-- They ask for help on the program, or on one command. -/
  | help (command : Option Text)
  /-- They ask for the version of the program. -/
  | version
  /-- They are not in order. -/
  | misuse
  deriving DecidableEq, Repr

/-- The options and operands that words give. -/
structure Given where
  /-- The names of the options with their values. -/
  options : List (Text × Text) := []
  /-- The operands. -/
  operands : List Text := []
  deriving DecidableEq, Repr

/-! ## Values -/

/-- The number of a port. It may have a sign and zeros before it. -/
def portOf? (text : Text) : Option Nat :=
  let (negative, digits) := match text with
    | '-' :: rest => (true, rest)
    | '+' :: rest => (false, rest)
    | text => (false, text)
  let number := Text.decimalValue digits
  if digits.isEmpty || !digits.all Text.isAsciiDigit then none
  else if 65535 < number || (negative && number != 0) then none
  else some number

/-- Whether a text is a value of a certain kind. -/
def ValueKind.accepts : ValueKind → Text → Bool
  | .absent, value => value.isEmpty
  | .text, _ => true
  | .path, value => !value.isEmpty
  | .port, value => (portOf? value).isSome

namespace Given

/-- The value of an option. -/
def value? (given : Given) (name : Text) : Option Text :=
  given.options.lookup name

/-- Whether an option is there. -/
def has (given : Given) (name : Text) : Bool :=
  (given.value? name).isSome

/-- Adds an option with its value. An option is given once. -/
def addOption (given : Given) (option : OptionSpec) (value : Text) : Except Refusal Given :=
  if given.has option.name || !option.kind.accepts value then .error .misuse
  else .ok { given with options := given.options ++ [(option.name, value)] }

/-- Adds operands, as far as the command takes them. -/
def addOperands (given : Given) (command : CommandSpec) (words : List Text) :
    Except Refusal Given :=
  if command.operands.length < given.operands.length + words.length then .error .misuse
  else .ok { given with operands := given.operands ++ words }

end Given

/-! ## Words -/

/-- The name in a word behind its two hyphens, and the value behind its equals sign. -/
def splitName (word : Text) : Text × Option Text :=
  let name := word.takeWhile (· != '=')
  match word.drop name.length with
  | _ :: value => (name, some value)
  | [] => (name, none)

/-- The letter that asks for help. -/
def helpLetter : Char := 'h'

/-- The name of the option that asks for help. -/
def helpName : Text := "help"

/-- Takes the option in a word behind its two hyphens, and gives the option that waits for its
value. -/
def takeName (command : CommandSpec) (given : Given) (word : Text) :
    Except Refusal (Given × Option OptionSpec) :=
  let (name, value?) := splitName word
  if name = helpName then .error (if value?.isNone then .help (some command.name) else .misuse)
  else
    match command.options.find? (·.name = name), value? with
    | none, _ => .error .misuse
    | some option, some value =>
      if option.kind = .absent then .error .misuse
      else do return (← given.addOption option value, none)
    | some option, none =>
      if option.kind = .absent then do return (← given.addOption option [], none)
      else .ok (given, some option)

/-- Takes the options in a word behind its hyphen, and gives the option that waits for its value. -/
def takeLetters (command : CommandSpec) (given : Given) :
    Text → Except Refusal (Given × Option OptionSpec)
  | [] => .ok (given, none)
  | letter :: rest =>
    if letter = helpLetter then .error (.help (some command.name))
    else
      match command.options.find? (·.letter = some letter) with
      | none => .error .misuse
      | some option =>
        if option.kind = .absent then do
          let given ← given.addOption option []
          takeLetters command given rest
        else
          match rest with
          | [] => .ok (given, some option)
          | '=' :: value => do return (← given.addOption option value, none)
          | value => do return (← given.addOption option value, none)

/-- Takes words; `waiting` is the option whose value comes next. -/
def takeWords (command : CommandSpec) (waiting : Option OptionSpec) (given : Given) :
    List Text → Except Refusal Given
  | [] => if waiting.isSome then .error .misuse else .ok given
  | word :: rest =>
    match word, waiting with
    | '-' :: _ :: _, some _ => .error .misuse
    | ['-', '-'], none => given.addOperands command rest
    | '-' :: '-' :: name, none => do
      let (given, waiting) ← takeName command given name
      takeWords command waiting given rest
    | '-' :: letter :: letters, none => do
      let (given, waiting) ← takeLetters command given (letter :: letters)
      takeWords command waiting given rest
    | value, some option => do
      takeWords command none (← given.addOption option value) rest
    | operand, none => do
      takeWords command none (← given.addOperands command [operand]) rest

end DocSite.Command
