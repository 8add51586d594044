import DocSite.Site.Viewer

/-!
# Configurations

A configuration says where the documents are, how the site looks and where it is served. It is made
in layers: the built-in one has a value for every setting, and each layer above it replaces the
settings that it holds.
-/

namespace DocSite

/-- All settings of a site. -/
structure Config where
  /-- The host to serve on. -/
  host : Text
  /-- The port to serve on. -/
  port : Nat
  /-- The address below which the documents lie. -/
  baseUrl : Text
  /-- The document of the root page. -/
  rootDocument : Text
  /-- The URL of the table of contents. -/
  sidebarUrl : Text
  /-- How many seconds fetching a document may take. -/
  timeout : Nat
  /-- The colours and fonts of the site. -/
  theme : Theme
  /-- The colour theme of code. -/
  codeTheme : Text
  deriving DecidableEq, Repr

namespace Config

/-- The settings that are used when no others are given. -/
def default : Config where
  host := "127.0.0.1"
  port := 7979
  baseUrl := Location.defaultBase
  rootDocument := Location.defaultRootDocument
  sidebarUrl := Location.defaultSidebarUrl
  timeout := 30
  theme := .default
  codeTheme := Code.defaultTheme

/-- The settings of the viewer. -/
def viewerSettings (config : Config) : ViewerSettings where
  baseUrl := config.baseUrl
  rootDocument := config.rootDocument
  sidebarUrl := config.sidebarUrl
  codeTheme := config.codeTheme
  theme := config.theme

/-- The viewer of the site. -/
def viewer (config : Config) (tools : Document.Tools := .standard) : Except ViewerError Viewer :=
  Viewer.of config.viewerSettings tools

/-- Where the documents are. -/
def location (config : Config) : Location :=
  .of config.baseUrl config.rootDocument

/-- The address to serve on. -/
def address (config : Config) : Text :=
  config.host ++ ':' :: Text.ofNat config.port

/-! ## Layers -/

/-- The settings that are given in one place. -/
structure Layer where
  /-- The host to serve on. -/
  host : Option Text := none
  /-- The port to serve on. -/
  port : Option Nat := none
  /-- The address below which the documents lie. -/
  baseUrl : Option Text := none
  /-- The document of the root page. -/
  rootDocument : Option Text := none
  /-- The URL of the table of contents. -/
  sidebarUrl : Option Text := none
  /-- How many seconds fetching a document may take. -/
  timeout : Option Nat := none
  /-- The colour behind the text. -/
  background : Option Text := none
  /-- The colour of the text. -/
  foreground : Option Text := none
  /-- The colour of headings and of the bar at the top. -/
  primary : Option Text := none
  /-- The colour of links. -/
  secondary : Option Text := none
  /-- The colour of accents. -/
  tertiary : Option Text := none
  /-- The colour of borders. -/
  lightBackground : Option Text := none
  /-- The colour behind code. -/
  darkBackground : Option Text := none
  /-- The font of headings. -/
  headingFont : Option Text := none
  /-- The font of the text. -/
  bodyFont : Option Text := none
  /-- The colour theme of code. -/
  codeTheme : Option Text := none
  deriving DecidableEq, Repr

/-- The settings of a layer in the place of those below it. -/
def withLayer (config : Config) (layer : Layer) : Config where
  host := layer.host.getD config.host
  port := layer.port.getD config.port
  baseUrl := layer.baseUrl.getD config.baseUrl
  rootDocument := layer.rootDocument.getD config.rootDocument
  sidebarUrl := layer.sidebarUrl.getD config.sidebarUrl
  timeout := layer.timeout.getD config.timeout
  theme := {
    background := layer.background.getD config.theme.background
    foreground := layer.foreground.getD config.theme.foreground
    primary := layer.primary.getD config.theme.primary
    secondary := layer.secondary.getD config.theme.secondary
    tertiary := layer.tertiary.getD config.theme.tertiary
    lightBackground := layer.lightBackground.getD config.theme.lightBackground
    darkBackground := layer.darkBackground.getD config.theme.darkBackground
    headingFont := layer.headingFont.getD config.theme.headingFont
    bodyFont := layer.bodyFont.getD config.theme.bodyFont }
  codeTheme := layer.codeTheme.getD config.codeTheme

/-- The settings that a command may give. -/
structure Overrides where
  /-- The host to serve on. -/
  host : Option Text := none
  /-- The port to serve on. -/
  port : Option Nat := none
  /-- The address below which the documents lie. -/
  baseUrl : Option Text := none
  /-- The URL of the table of contents. -/
  sidebarUrl : Option Text := none
  deriving DecidableEq, Repr

/-- The settings of a command as a layer. -/
def Overrides.layer (overrides : Overrides) : Layer where
  host := overrides.host
  port := overrides.port
  baseUrl := overrides.baseUrl
  sidebarUrl := overrides.sidebarUrl

end Config

end DocSite
