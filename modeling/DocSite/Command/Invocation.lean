import DocSite.Command.Words
import DocSite.Config.Basic
import DocSite.Config.Reference

/-!
# Commands

The program has five commands. Each of them loads a configuration, and all but one of them are about
a site that is fetched; this module says how they are called.
-/

namespace DocSite

namespace Command

/-- How the configuration of a command is given. -/
structure SourceOptions where
  /-- The path of the configuration file. -/
  configFile : Option Text
  /-- The address below which the documents lie. -/
  baseUrl : Option Text
  /-- The URL of the table of contents. -/
  sidebarUrl : Option Text
  deriving DecidableEq, Repr

/-- The page of a command, level by level. -/
structure PageOperands where
  /-- The first level. -/
  category : Option Text
  /-- The second level. -/
  subpage : Option Text
  /-- The third level. -/
  subsubpage : Option Text
  deriving DecidableEq, Repr

end Command

open Command (SourceOptions PageOperands) in
/-- A command with its options. -/
inductive Command
  /-- Serves the site. -/
  | serve (source : SourceOptions) (host : Option Text) (port : Option Nat) (verbose : Bool)
  /-- Writes a page, or only its document. -/
  | render (page : PageOperands) (source : SourceOptions) (fragment : Bool) (file : Option Text)
  /-- Lists the headings of a page. -/
  | headings (page : PageOperands) (source : SourceOptions) (json : Bool)
  /-- Writes the URL of the document of a page. -/
  | url (page : PageOperands) (source : SourceOptions)
  /-- Lists the table of contents. -/
  | sidebar (source : SourceOptions) (json : Bool)
  deriving DecidableEq, Repr

namespace Command

/-- How the configuration of a command is given. -/
def source : Command → SourceOptions
  | serve source .. | render _ source .. | headings _ source _ | url _ source
  | sidebar source _ => source

/-- The name of the program. -/
def programName : Text := "jb"

/-- The version of the program. -/
def programVersion : Text := "0.1.0"

/-! ## What the commands take -/

/-- The options of every command. -/
def sourceOptions : List OptionSpec := [
  { name := "config", letter := some 'c', kind := .path,
    purpose := "Path to configuration file (default: auto-discover jb.toml)" },
  { name := "base-url", kind := .text, fallback := some "JB_BASE_URL".toList,
    purpose := "Base URL of the raw Markdown docs (overrides config)" },
  { name := "sidebar-url", kind := .text, fallback := some "JB_SIDEBAR_URL".toList,
    purpose := "URL of the sidebar JSON (overrides config)" }]

/-- The operands of every command about a page. -/
def pageOperands : List OperandSpec := [
  { name := "CATEGORY", purpose := "Category (omit for the docs root)" },
  { name := "SUBPAGE" },
  { name := "SUBSUBPAGE" }]

/-- What `serve` takes. -/
def serveSpec : CommandSpec where
  name := "serve"
  purpose := "Start the documentation server"
  operands := []
  options := sourceOptions ++ [
    { name := "host", kind := .text, purpose := "Host to bind to (overrides config)" },
    { name := "port", letter := some 'p', kind := .port,
      purpose := "Port to bind to (overrides config)" },
    { name := "verbose", letter := some 'v',
      purpose := "Enable verbose output (request and fetch logs)" }]

/-- What `render` takes. -/
def renderSpec : CommandSpec where
  name := "render"
  purpose := "Render a docs page to HTML"
  operands := pageOperands
  options := sourceOptions ++ [
    { name := "fragment",
      purpose := "Print only the rendered document, without the page around it" },
    { name := "output", letter := some 'o', kind := .path,
      purpose := "Write to a file instead of stdout" }]

/-- What `headings` takes. -/
def headingsSpec : CommandSpec where
  name := "headings"
  purpose := "Print the outline of a docs page"
  operands := pageOperands
  options := sourceOptions ++ [{ name := "json", purpose := "Print headings as JSON" }]

/-- What `url` takes. -/
def urlSpec : CommandSpec where
  name := "url"
  purpose := "Print the document URL of a docs page"
  operands := pageOperands
  options := sourceOptions

/-- What `sidebar` takes. -/
def sidebarSpec : CommandSpec where
  name := "sidebar"
  purpose := "Print the documentation table of contents"
  operands := []
  options := sourceOptions ++ [{ name := "json", purpose := "Print the sidebar as JSON" }]

/-- All commands. -/
def specs : List CommandSpec :=
  [serveSpec, renderSpec, headingsSpec, urlSpec, sidebarSpec]

/-! ## Reading -/

/-- The value of an option, or else of its variable. -/
def valueOf (environment : Environment) (given : Given) (option : OptionSpec) : Option Text :=
  given.value? option.name <|> option.fallback.bind environment

/-- The value of an option with a certain name. -/
def optionValue (environment : Environment) (spec : CommandSpec) (given : Given) (name : Text) :
    Option Text :=
  (spec.options.find? (·.name = name)).bind (valueOf environment given)

/-- The options of every command. -/
def SourceOptions.ofGiven (environment : Environment) (spec : CommandSpec) (given : Given) :
    SourceOptions where
  configFile := optionValue environment spec given "config"
  baseUrl := optionValue environment spec given "base-url"
  sidebarUrl := optionValue environment spec given "sidebar-url"

/-- The page of a command. -/
def PageOperands.ofGiven (given : Given) : PageOperands where
  category := given.operands[0]?
  subpage := given.operands[1]?
  subsubpage := given.operands[2]?

/-- The command with certain options. -/
def ofGiven (environment : Environment) (spec : CommandSpec) (given : Given) : Command :=
  let source := SourceOptions.ofGiven environment spec given
  let page := PageOperands.ofGiven given
  if spec.name = serveSpec.name then
    serve source (given.value? "host") ((given.value? "port").bind portOf?) (given.has "verbose")
  else if spec.name = renderSpec.name then
    render page source (given.has "fragment") (given.value? "output")
  else if spec.name = headingsSpec.name then headings page source (given.has "json")
  else if spec.name = urlSpec.name then url page source
  else sidebar source (given.has "json")

/-- What a word asks for that stands in the place of a command. -/
def ofOption : Text → Refusal
  | '-' :: '-' :: name =>
    if name = helpName then .help none
    else if name = "version".toList then .version
    else .misuse
  | '-' :: letter :: _ =>
    if letter = helpLetter then .help none else if letter = 'V' then .version else .misuse
  | _ => .misuse

/-- What a request for help is about. -/
def ofHelp : List Text → Refusal
  | [] => .help none
  | [name] =>
    if (specs.find? (·.name = name)).isSome then .help (some name)
    else if name = helpName then .help none
    else .misuse
  | _ => .misuse

/-- The command that words stand for. -/
def ofWords (environment : Environment) : List Text → Except Refusal Command
  | [] => .error .misuse
  | word :: rest =>
    match specs.find? (·.name = word) with
    | some spec => do return ofGiven environment spec (← takeWords spec none {} rest)
    | none => .error (if word = helpName then ofHelp rest else ofOption word)

end Command

end DocSite
