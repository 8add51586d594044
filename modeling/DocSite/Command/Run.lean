import DocSite.Command.Help
import DocSite.Command.Listing
import DocSite.Config.Load
import DocSite.Web.Server
import DocSite.Web.SocketAddress

/-!
# Carrying out commands

A command is carried out in what the program finds when it starts, and it fetches documents. It ends
with an outcome: what it writes to its output, what it tells on the side, and the file that it writes.
Only serving a site goes on, with a viewer and an address to serve on. A command fails on its page
first, then on its configuration, then on the colours of code.
-/

namespace DocSite

open Storage

/-- Why a command fails. -/
inductive CommandError
  /-- Its page does not exist. -/
  | address (cause : AddressError)
  /-- There is no configuration. -/
  | config (cause : ConfigError)
  /-- There is no viewer. -/
  | viewer (cause : ViewerError)
  /-- There is no table of contents. -/
  | sidebar (cause : SidebarError)
  /-- The file cannot be written. -/
  | file (cause : FileError)
  /-- The host and the port are no address to serve on. -/
  | socket
  deriving DecidableEq, Repr

/-- The message of an error. -/
def CommandError.message : CommandError → Text
  | address cause => "Invalid page address: ".toList ++ cause.message
  | config cause => cause.message
  | viewer cause => cause.message
  | sidebar cause => "Failed to load sidebar: ".toList ++ cause.message
  | file cause => cause.message
  | socket => "invalid socket address syntax"

/-- How a command ends. -/
structure Outcome where
  /-- The status: zero for success. -/
  status : Nat := 0
  /-- What is written to the output. -/
  output : Text := []
  /-- What is told on the side. -/
  messages : Text := []
  /-- The file that is written, and its content. -/
  written : Option (Place × Text) := none
  deriving DecidableEq, Repr

/-- What a command comes to. -/
inductive Action
  /-- It ends. -/
  | finish (outcome : Outcome)
  /-- It serves a site on an address, after it has told something. -/
  | serve (messages : Text) (viewer : Viewer) (address : Web.SocketAddress)

/-- A text on a line of its own. -/
def onLine (text : Text) : Text :=
  text ++ ['\n']

namespace Outcome

/-- A success with a text as output, without the blanks at its end. -/
def listed (text : Text) : Outcome where
  output := onLine (Text.trimEnd text)

/-- The line that tells why a command fails. -/
def failureLine (reason : Text) : Text :=
  onLine ("Error: ".toList ++ reason)

/-- A failure, after something has been told. -/
def failed (messages : Text) (error : CommandError) : Outcome where
  status := 1
  messages := messages ++ failureLine error.message

/-- What words come to that are not carried out. -/
def refused : Command.Refusal → Outcome
  | .help command => { output := Command.helpOn command }
  | .version =>
    { output := onLine (Command.programName ++ ' ' :: Command.programVersion) }
  | .misuse => { status := 2, messages := Command.programHelp }

end Outcome

namespace Command

/-! ## Pages and sites -/

/-- The address of the page of a command. -/
def PageOperands.address (page : PageOperands) : Except CommandError Address :=
  (Address.ofParts page.category page.subpage page.subsubpage).mapError .address

/-- The settings that a command gives. -/
def SourceOptions.overrides (source : SourceOptions) (host : Option Text) (port : Option Nat) :
    Config.Overrides where
  host := host
  port := port
  baseUrl := source.baseUrl
  sidebarUrl := source.sidebarUrl

/-- The configuration of a command. -/
def SourceOptions.load (source : SourceOptions) (surroundings : Surroundings)
    (host : Option Text) (port : Option Nat) : Except CommandError Config.Loaded :=
  (Config.load surroundings source.configFile (source.overrides host port)).mapError .config

/-- The configuration of a command that does not serve. -/
def SourceOptions.config (source : SourceOptions) (surroundings : Surroundings) :
    Except CommandError Config := do
  return (← source.load surroundings none none).config

/-- The viewer of a command. -/
def SourceOptions.viewer (source : SourceOptions) (surroundings : Surroundings)
    (tools : Document.Tools := .standard) : Except CommandError Viewer := do
  ((← source.config surroundings).viewer tools).mapError .viewer

/-- The page of a command and the viewer that shows it. -/
def shown (surroundings : Surroundings) (page : PageOperands) (source : SourceOptions)
    (tools : Document.Tools := .standard) : Except CommandError (Address × Viewer) := do
  let address ← page.address
  return (address, ← source.viewer surroundings tools)

/-- Ends with a failure, or goes on. -/
def proceed {α : Type} (prepared : Except CommandError α) (next : α → Fetching Outcome) :
    Fetching Outcome :=
  match prepared with
  | .error error => return .failed [] error
  | .ok value => next value

/-! ## The commands -/

/-- A page, or only its document. -/
def markup (viewer : Viewer) (address : Address) (fragment : Bool) : Fetching Text :=
  if fragment then do return (← viewer.document address).html
  else do return (← viewer.standalonePage address).html

/-- Writes a text to a file, or to the output if no file is named. -/
def deliver (surroundings : Surroundings) (address : Address) (file : Option Text) (text : Text) :
    Outcome :=
  match file with
  | none => { output := text }
  | some path =>
    match surroundings.files.writable surroundings.directory path with
    | .error cause => .failed [] (.file cause)
    | .ok place =>
      { messages := onLine ("Wrote ".toList ++ address.route ++ " to ".toList ++ path)
        written := some (place, text) }

/-- Carries out `render`. -/
def runRender (surroundings : Surroundings) (page : PageOperands) (source : SourceOptions)
    (fragment : Bool) (file : Option Text) (tools : Document.Tools := .standard) :
    Fetching Outcome :=
  proceed (shown surroundings page source tools) fun (address, viewer) => do
    return deliver surroundings address file (← markup viewer address fragment)

/-- Carries out `headings`. -/
def runHeadings (surroundings : Surroundings) (page : PageOperands) (source : SourceOptions)
    (json : Bool) (tools : Document.Tools := .standard) : Fetching Outcome :=
  proceed (shown surroundings page source tools) fun (address, viewer) => do
    let view ← viewer.load address
    let headings := view.rendition.headings
    let text :=
      if json then (Json.list (headings.map Web.Server.headingJson)).pretty
      else Document.listing headings
    let messages :=
      if view.phase = .fetchFailed then onLine ("Could not load ".toList ++ view.url.getD [])
      else []
    return { Outcome.listed text with messages }

/-- Carries out `url`. Nothing is fetched. -/
def runUrl (surroundings : Surroundings) (page : PageOperands) (source : SourceOptions) :
    Fetching Outcome :=
  let prepared : Except CommandError (Address × Config) := do
    let address ← page.address
    return (address, ← source.config surroundings)
  proceed prepared fun (address, config) =>
    return { output := onLine (config.location.url address) }

/-- Carries out `sidebar`. -/
def runSidebar (surroundings : Surroundings) (source : SourceOptions) (json : Bool)
    (tools : Document.Tools := .standard) : Fetching Outcome :=
  proceed (source.viewer surroundings tools) fun viewer => do
    match ← Sidebar.fetch viewer.sidebarUrl with
    | .error cause => return .failed [] (.sidebar cause)
    | .ok contents =>
      return .listed (if json then contents.toJson.pretty else contents.listing 0)

/-- A label and its value on a line. -/
def announceLine (label : String) (value : Text) : Text :=
  onLine (label.toList ++ ": ".toList ++ value)

/-- What is told before a site is served. -/
def announcement (loaded : Config.Loaded) : Text :=
  (match loaded.path with
    | some path => announceLine "Config" path
    | none => []) ++
  announceLine "Serving docs on" ("http://".toList ++ loaded.config.address ++ "/docs".toList) ++
  announceLine "Document source" loaded.config.baseUrl ++
  announceLine "Sidebar" loaded.config.sidebarUrl

/-- Carries out `serve`, up to the point where requests come in. -/
def startServing (surroundings : Surroundings) (source : SourceOptions) (host : Option Text)
    (port : Option Nat) (tools : Document.Tools := .standard) : Action :=
  match source.load surroundings host port with
  | .error error => .finish (.failed [] error)
  | .ok loaded =>
    let messages := announcement loaded
    match loaded.config.viewer tools, Web.SocketAddress.parse? loaded.config.address with
    | .error cause, _ => .finish (.failed messages (.viewer cause))
    | .ok _, none => .finish (.failed messages .socket)
    | .ok viewer, some address => .serve messages viewer address

/-- Carries out a command with some tools. -/
def run (surroundings : Surroundings) (command : Command)
    (tools : Document.Tools := .standard) : Fetching Action :=
  match command with
  | serve source host port _ => return startServing surroundings source host port tools
  | render page source fragment file => do
    return .finish (← runRender surroundings page source fragment file tools)
  | headings page source json => do
    return .finish (← runHeadings surroundings page source json tools)
  | url page source => do return .finish (← runUrl surroundings page source)
  | sidebar source json => do return .finish (← runSidebar surroundings source json tools)

/-- Carries out the command that words stand for. -/
def runWords (surroundings : Surroundings) (words : List Text)
    (tools : Document.Tools := .standard) : Fetching Action :=
  match ofWords surroundings.environment words with
  | .error refusal => return .finish (.refused refusal)
  | .ok command => run surroundings command tools

end Command

end DocSite
