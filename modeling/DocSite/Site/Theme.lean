import DocSite.Html.Stylesheet
import DocSite.Text.Blank

/-!
# Themes

The colours and fonts of the site. They are given to the pages as custom properties of one
`:root` rule; the rules for the layout of the pages refer to these properties.
-/

namespace DocSite

open Html (Rule RuleLayout Declaration)

/-- The colours and fonts of the site. -/
structure Theme where
  /-- The colour behind the text. -/
  background : Text
  /-- The colour of the text. -/
  foreground : Text
  /-- The colour of headings and of the bar at the top. -/
  primary : Text
  /-- The colour of links. -/
  secondary : Text
  /-- The colour of accents. -/
  tertiary : Text
  /-- The colour of borders. -/
  lightBackground : Text
  /-- The colour behind code. -/
  darkBackground : Text
  /-- The font of headings. -/
  headingFont : Text
  /-- The font of the text. -/
  bodyFont : Text
  deriving DecidableEq, Repr

namespace Theme

/-- The theme that is used when none is given. -/
def default : Theme where
  background := "#ffffff"
  foreground := "#171717"
  primary := "#102B55"
  secondary := "#174A7E"
  tertiary := "#22699D"
  lightBackground := "#202124"
  darkBackground := "#121212"
  headingFont := "Josefin Sans"
  bodyFont := "Comfortaa"

/-- A value in quotation marks. -/
def inQuotes (value : Text) : Text :=
  '\x22' :: value ++ ['\x22']

/-- The custom properties of a theme. -/
def properties (theme : Theme) : List (Text × Text) :=
  [("background".toList, theme.background), ("foreground".toList, theme.foreground),
    ("primary".toList, theme.primary), ("secondary".toList, theme.secondary),
    ("tertiary".toList, theme.tertiary), ("light-background".toList, theme.lightBackground),
    ("dark-background".toList, theme.darkBackground),
    ("font-heading".toList, inQuotes theme.headingFont),
    ("font-body".toList, inQuotes theme.bodyFont)]

/-- The rule that declares the custom properties. -/
def variablesRule (theme : Theme) : Rule where
  layout := .onLines
  selector := ":root"
  declarations := theme.properties.map fun (name, value) => ⟨'-' :: '-' :: name, value⟩

/-- The custom properties as a stylesheet. -/
def customProperties (theme : Theme) : Text :=
  theme.variablesRule.write

/-- The name of a font in a URL: its words with plus signs between them. -/
def fontFamily (font : Text) : Text :=
  Text.join "+" (Text.words font)

/-- The URL of the stylesheet that brings the fonts. -/
def fontsUrl (theme : Theme) : Text :=
  "https://fonts.googleapis.com/css2?family=".toList ++ fontFamily theme.headingFont ++
    "&family=".toList ++ fontFamily theme.bodyFont ++ "&display=swap".toList

/-- A rule of the layout. -/
def rule (layout : RuleLayout) (selector : String) (declarations : List (String × String)) : Rule where
  layout := layout
  selector := selector
  declarations := declarations.map fun (property, value) => ⟨property.toList, value.toList⟩

/-- The rules for the layout of the pages. -/
def layoutRules : List Rule :=
  [rule .onOneLine "*" [("box-sizing", "border-box")],
    rule .onLines "body" [("margin", "0"), ("background", "var(--background)"),
      ("color", "var(--foreground)"), ("font-family", "var(--font-body), sans-serif"),
      ("-webkit-font-smoothing", "antialiased")],
    rule .onOneLine "h1, h2, h3, h4, h5, h6" [("font-family", "var(--font-heading), sans-serif"),
      ("color", "var(--primary)")],
    rule .onOneLine "a" [("color", "var(--secondary)")],
    rule .onLines ".navbar" [("display", "flex"), ("align-items", "center"),
      ("justify-content", "space-between"), ("padding", "0.5rem 2rem"),
      ("border-bottom", "1px solid rgb(255 255 255 / 0.2)"), ("background", "var(--primary)")],
    rule .onOneLine ".navbar .brand" [("color", "#ffffff"),
      ("font-family", "var(--font-heading), sans-serif"), ("font-weight", "700"),
      ("font-size", "1.75rem"), ("letter-spacing", "0.1em"), ("text-decoration", "none")],
    rule .onOneLine ".doc-wrapper" [("display", "flex"), ("gap", "1.5rem"),
      ("padding", "1.5rem 2rem")],
    rule .onOneLine ".sidebar" [("width", "260px"), ("flex-shrink", "0"),
      ("background", "var(--background)")],
    rule .onOneLine ".sidebar h2" [("color", "var(--tertiary)"), ("font-size", "1.25rem")],
    rule .onOneLine ".sidebar ul" [("list-style", "none"), ("margin", "0"), ("padding", "0")],
    rule .onOneLine ".sidebar ul ul" [("padding-left", "1rem")],
    rule .onOneLine ".sidebar li" [("position", "relative"), ("margin-bottom", "0.25rem")],
    rule .onOneLine ".sidebar a" [("text-decoration", "none")],
    rule .onOneLine ".sidebar a:hover" [("text-decoration", "underline")],
    rule .onLines ".sidebar-description" [("display", "none"), ("position", "absolute"),
      ("left", "100%"), ("top", "0.2rem"), ("margin-left", "0.5rem"), ("width", "16rem"),
      ("padding", "0.5rem"), ("border-radius", "0.25rem"), ("background", "var(--tertiary)"),
      ("color", "var(--background)"), ("font-size", "0.75rem"), ("z-index", "10")],
    rule .onOneLine ".sidebar li:hover > .sidebar-description" [("display", "block")],
    rule .onOneLine ".content-wrapper" [("flex", "1"), ("min-width", "0")],
    rule .onOneLine ".markdown-content pre" [("padding", "1rem"), ("border-radius", "0.375rem"),
      ("overflow-x", "auto"), ("background", "var(--dark-background)"), ("color", "#ffffff")],
    rule .onOneLine ".markdown-content h1 a, .markdown-content h2 a, .markdown-content h3 a, .markdown-content h4 a" [
      ("color", "inherit"), ("text-decoration", "none")],
    rule .onOneLine ".markdown-content table" [("border-collapse", "collapse")],
    rule .onOneLine ".markdown-content th, .markdown-content td" [
      ("border", "1px solid var(--light-background)"), ("padding", "0.25rem 0.5rem")],
    rule .onOneLine ".alert" [("border-left", "4px solid var(--tertiary)"),
      ("padding", "0.5rem 1rem"), ("margin", "1rem 0")],
    rule .onOneLine ".alert-title" [("font-weight", "700"), ("margin", "0")],
    rule .onOneLine ".alert-warning, .alert-caution" [("border-left-color", "#d97706")],
    rule .onOneLine ".toc" [("width", "220px"), ("flex-shrink", "0"), ("position", "sticky"),
      ("top", "1.5rem"), ("align-self", "flex-start")],
    rule .onOneLine ".toc p" [("font-weight", "700"), ("text-transform", "uppercase"),
      ("font-size", "0.75rem"), ("letter-spacing", "0.05em")],
    rule .onOneLine ".toc ul" [("list-style", "none"), ("margin", "0"), ("padding", "0")],
    rule .onOneLine ".toc .level-2" [("padding-left", "0.75rem")],
    rule .onOneLine ".toc .level-3" [("padding-left", "1.5rem")]]

/-- The stylesheet of the site: the custom properties, the layout, and the rules for the colours of
code. -/
def stylesheet (theme : Theme) (codeRules : Text := []) : Text :=
  theme.customProperties ++ '\n' :: Rule.writeAll layoutRules ++ codeRules

end Theme

end DocSite
