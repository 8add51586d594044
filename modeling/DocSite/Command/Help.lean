import DocSite.Command.Invocation

/-!
# Help

What the program writes when it is asked how it is called.
-/

namespace DocSite.Command

/-- A name and what it is for. -/
abbrev HelpEntry := Text × Text

/-- Entries on lines of their own, with what they are for in one column. -/
def helpEntries (entries : List HelpEntry) : Text :=
  let width := (entries.map fun entry => entry.1.length).foldl max 0
  entries.flatMap fun (name, purpose) =>
    let gap := if purpose.isEmpty then [] else List.replicate (width - name.length + 2) ' '
    "  ".toList ++ name ++ gap ++ purpose ++ ['\n']

/-- Entries below a title. -/
def helpSection (title : Text) (entries : List HelpEntry) : Text :=
  if entries.isEmpty then [] else '\n' :: title ++ ":\n".toList ++ helpEntries entries

/-- The name of an option in capital letters, for its value. -/
def valueName (option : OptionSpec) : Text :=
  option.name.map fun c => if c = '-' then '_' else c.toUpper

/-- How an option is written. -/
def OptionSpec.form (option : OptionSpec) : Text :=
  let letter := match option.letter with
    | some c => ['-', c, ',', ' ']
    | none => "    ".toList
  let value := if option.kind = .absent then [] else " <".toList ++ valueName option ++ ['>']
  letter ++ "--".toList ++ option.name ++ value

/-- The entry of an option. -/
def OptionSpec.entry (option : OptionSpec) : HelpEntry :=
  let fallback := match option.fallback with
    | some name => " [env: ".toList ++ name ++ "=]".toList
    | none => []
  (option.form, option.purpose ++ fallback)

/-- The entry of the option that asks for help. -/
def helpEntry : HelpEntry := ("-h, --help".toList, "Print help".toList)

/-- How an operand is written. -/
def OperandSpec.form (operand : OperandSpec) : Text :=
  '[' :: operand.name ++ [']']

/-- Help on a command. -/
def CommandSpec.help (spec : CommandSpec) : Text :=
  let operands := spec.operands.flatMap fun operand => ' ' :: operand.form
  spec.purpose ++ "\n\nUsage: ".toList ++ programName ++ ' ' :: spec.name ++
    " [OPTIONS]".toList ++ operands ++ ['\n'] ++
    helpSection "Arguments" (spec.operands.map fun operand => (operand.form, operand.purpose)) ++
    helpSection "Options" (spec.options.map OptionSpec.entry ++ [helpEntry])

/-- Help on the program. -/
def programHelp : Text :=
  "JugadBase docs viewer - CLI\n\nUsage: ".toList ++ programName ++ " <COMMAND>\n".toList ++
    helpSection "Commands" (specs.map (fun spec => (spec.name, spec.purpose)) ++
      [(helpName, "Print this message or the help of the given subcommand(s)".toList)]) ++
    helpSection "Options" [helpEntry, ("-V, --version".toList, "Print version".toList)]

/-- Help on a command, or on the program. -/
def helpOn (name : Option Text) : Text :=
  match name.bind fun name => specs.find? (·.name = name) with
  | some spec => spec.help
  | none => programHelp

end DocSite.Command
