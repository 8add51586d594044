import DocSite.Config.Basic
import DocSite.Config.Reference
import DocSite.Toml.Record

/-!
# Configuration files

A configuration file is a TOML text with the records `server`, `source` and `theme`. The host and the
two URLs may refer to variables of the environment.
-/

namespace DocSite.Config

/-! ## Records -/

/-- The record on the server. -/
def serverRecord : Toml.Record Layer where
  name := "struct ServerConfig"
  fields := [
    .text "host" fun layer value => { layer with host := some value },
    .natural "port" "u16" 65535 fun layer value => { layer with port := some value }]

/-- The record on the documents. -/
def sourceRecord : Toml.Record Layer where
  name := "struct SourceConfig"
  fields := [
    .text "base_url" fun layer value => { layer with baseUrl := some value },
    .text "root_document" fun layer value => { layer with rootDocument := some value },
    .text "sidebar_url" fun layer value => { layer with sidebarUrl := some value },
    .natural "timeout_secs" "u64" 18446744073709551615
      fun layer value => { layer with timeout := some value }]

/-- The record on the look of the site. -/
def themeRecord : Toml.Record Layer where
  name := "struct ThemeConfig"
  fields := [
    .text "background" fun layer value => { layer with background := some value },
    .text "foreground" fun layer value => { layer with foreground := some value },
    .text "primary" fun layer value => { layer with primary := some value },
    .text "secondary" fun layer value => { layer with secondary := some value },
    .text "tertiary" fun layer value => { layer with tertiary := some value },
    .text "light_background" fun layer value => { layer with lightBackground := some value },
    .text "dark_background" fun layer value => { layer with darkBackground := some value },
    .text "heading_font" fun layer value => { layer with headingFont := some value },
    .text "body_font" fun layer value => { layer with bodyFont := some value },
    .text "code_theme" fun layer value => { layer with codeTheme := some value }]

/-- The record that a configuration file is. -/
def fileRecord : Toml.Record Layer where
  name := "struct Config"
  fields := [serverRecord.field "server", sourceRecord.field "source", themeRecord.field "theme"]

/-- The settings in the text of a configuration file, as they are written. -/
def Layer.ofText (text : Text) : Except Toml.Fault Layer := do
  fileRecord.takeMembers {} (← Toml.parse text)

/-! ## Variables -/

/-- A setting that refers to a missing variable. -/
structure MissingVariable where
  /-- The key of the setting. -/
  setting : Text
  /-- The name of the variable. -/
  name : Text
  deriving DecidableEq, Repr

/-- A setting with its references expanded. -/
def expandSetting (environment : Environment) (setting : Text) (value : Option Text) :
    Except MissingVariable (Option Text) :=
  match value with
  | none => .ok none
  | some text =>
    match expand environment text with
    | .ok expanded => .ok (some expanded)
    | .error name => .error { setting, name }

/-- The settings with their references expanded. -/
def Layer.expand (layer : Layer) (environment : Environment) : Except MissingVariable Layer := do
  let host ← expandSetting environment "server.host" layer.host
  let baseUrl ← expandSetting environment "source.base_url" layer.baseUrl
  let sidebarUrl ← expandSetting environment "source.sidebar_url" layer.sidebarUrl
  return { layer with host, baseUrl, sidebarUrl }

end DocSite.Config
