import DocSite.Config.Basic
import DocSite.Text.Quoted

/-!
# Valid configurations

What the settings of a configuration must be like. The settings are looked at in a fixed order, and
the first one that is not in order is named.
-/

namespace DocSite.Config

/-- What is wrong with a setting. -/
inductive Defect
  /-- A setting is empty. -/
  | empty (setting : Text)
  /-- A URL has another scheme than HTTP. -/
  | notHttp (setting : Text)
  /-- No port has the number zero. -/
  | portZero
  /-- The document of the root page is no Markdown file. -/
  | notMarkdown
  /-- There is no time to fetch a document. -/
  | timeoutZero
  /-- A colour is not given by hexadecimal digits. -/
  | notColour (setting value : Text)
  deriving DecidableEq, Repr

/-- The message of a defect. -/
def Defect.message : Defect → Text
  | empty setting => setting ++ " cannot be empty".toList
  | notHttp setting => setting ++ " must start with http:// or https://".toList
  | portZero => "server.port cannot be 0"
  | notMarkdown => "source.root_document must be a .md file"
  | timeoutZero => "source.timeout_secs must be greater than 0"
  | notColour setting value =>
    setting ++ " must be a hex color like #22699D, got ".toList ++ Text.quoted value

/-! ## Conditions on values -/

/-- Whether a text is a URL with an HTTP scheme. -/
def isHttpUrl (url : Text) : Bool :=
  Text.startsWith url "http://".toList || Text.startsWith url "https://".toList

/-- Whether a text is a number sign and three or six hexadecimal digits. -/
def isColour : Text → Bool
  | '#' :: digits => (digits.length == 3 || digits.length == 6) && digits.all Text.isHexDigit
  | _ => false

/-- Whether a text is the name of a Markdown file. -/
def isMarkdownName (name : Text) : Bool :=
  Text.startsWith name.reverse ".md".toList.reverse

/-! ## Conditions on settings -/

/-- The defect, unless a condition holds. -/
def defectUnless (holds : Bool) (defect : Defect) : Option Defect :=
  if holds then none else some defect

/-- The defect of a setting that must not be empty. -/
def emptyDefect? (setting : Text) (value : Text) : Option Defect :=
  defectUnless (!value.isEmpty) (.empty setting)

/-- The defect of a setting that must be a URL. -/
def urlDefect? (setting : Text) (value : Text) : Option Defect :=
  emptyDefect? setting value <|> defectUnless (isHttpUrl value) (.notHttp setting)

/-- The defect of a setting that must be a colour. -/
def colourDefect? (setting : Text) (value : Text) : Option Defect :=
  defectUnless (isColour value) (.notColour setting value)

/-- The first defect of a theme. -/
def themeDefect? (theme : Theme) : Option Defect :=
  colourDefect? "theme.background" theme.background <|>
  colourDefect? "theme.foreground" theme.foreground <|>
  colourDefect? "theme.primary" theme.primary <|>
  colourDefect? "theme.secondary" theme.secondary <|>
  colourDefect? "theme.tertiary" theme.tertiary <|>
  colourDefect? "theme.light_background" theme.lightBackground <|>
  colourDefect? "theme.dark_background" theme.darkBackground <|>
  emptyDefect? "theme.heading_font" theme.headingFont <|>
  emptyDefect? "theme.body_font" theme.bodyFont

/-- The first defect of a configuration. -/
def defect? (config : Config) : Option Defect :=
  emptyDefect? "server.host" config.host <|>
  defectUnless (config.port != 0) .portZero <|>
  urlDefect? "source.base_url" config.baseUrl <|>
  urlDefect? "source.sidebar_url" config.sidebarUrl <|>
  emptyDefect? "source.root_document" config.rootDocument <|>
  defectUnless (isMarkdownName config.rootDocument) .notMarkdown <|>
  defectUnless (config.timeout != 0) .timeoutZero <|>
  themeDefect? config.theme <|>
  emptyDefect? "theme.code_theme" config.codeTheme

end DocSite.Config
