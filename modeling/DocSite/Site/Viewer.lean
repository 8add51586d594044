import DocSite.Code.Highlighter
import DocSite.Site.Page
import DocSite.Site.Theme
import DocSite.Site.View

/-!
# The viewer

The viewer makes the pages of one site. It keeps nothing between pages: the document and the table
of contents are fetched for every page, the document first.
-/

namespace DocSite

/-- What a viewer is made from. -/
structure ViewerSettings where
  /-- The address below which the documents lie. -/
  baseUrl : Text := Location.defaultBase
  /-- The document of the root page. -/
  rootDocument : Text := Location.defaultRootDocument
  /-- The URL of the table of contents. -/
  sidebarUrl : Text := Location.defaultSidebarUrl
  /-- The colour theme of code. -/
  codeTheme : Text := Code.defaultTheme
  /-- The colours and fonts of the site. -/
  theme : Theme := .default
  deriving DecidableEq, Repr

/-- Why a viewer cannot be made. -/
inductive ViewerError
  /-- There is no highlighter for the code. -/
  | highlight (cause : Code.HighlightError)
  deriving DecidableEq, Repr

/-- The message of an error. -/
def ViewerError.message : ViewerError → Text
  | .highlight cause => "Failed to set up syntax highlighting: ".toList ++ cause.message

/-- A viewer of one site. -/
structure Viewer where
  /-- Where the documents are. -/
  location : Location
  /-- The URL of the table of contents. -/
  sidebarUrl : Text
  /-- The colours and fonts of the site. -/
  theme : Theme
  /-- The tools that documents are made with. -/
  tools : Document.Tools
  /-- The stylesheet of the site. -/
  stylesheet : Text

/-- The stylesheet of a site with certain settings, in which the tools give code its colours. -/
def ViewerSettings.stylesheet (settings : ViewerSettings) (tools : Document.Tools) :
    Except Code.HighlightError Text := do
  let highlighter ← Code.Highlighter.withTheme settings.codeTheme
  let codeRules ← (tools.codeRules highlighter.theme).mapError .failed
  return settings.theme.stylesheet codeRules

namespace Viewer

/-- The viewer with certain settings. -/
def of (settings : ViewerSettings) (tools : Document.Tools := .standard) :
    Except ViewerError Viewer :=
  match settings.stylesheet tools with
  | .error cause => .error (.highlight cause)
  | .ok stylesheet =>
    .ok {
      location := .of settings.baseUrl settings.rootDocument
      sidebarUrl := settings.sidebarUrl
      theme := settings.theme
      tools := tools
      stylesheet := stylesheet }

/-- The viewer that is used when no settings are given. -/
def default : Viewer where
  location := .default
  sidebarUrl := Location.defaultSidebarUrl
  theme := .default
  tools := .standard
  stylesheet := Theme.default.stylesheet

example : of {} = .ok default := rfl

/-- The route of the stylesheet. -/
def stylesheetRoute : Text := "/theme.css"

/-- What the documents of the site are rendered with. -/
def renderer (viewer : Viewer) : Document.Renderer where
  stages := Document.Stage.standard
  tools := viewer.tools

/-- A view that has loaded a page. -/
def load (viewer : Viewer) (address : Address) : Fetching View := do
  let (view, _) ← (View.new viewer.location).load viewer.renderer address
  return view

/-- The document of a page. -/
def document (viewer : Viewer) (address : Address) : Fetching Rendition := do
  return (← viewer.load address).rendition

/-- The table of contents; if it cannot be fetched, it is empty. -/
def sidebar (viewer : Viewer) : Fetching Sidebar :=
  Sidebar.fetchOrEmpty viewer.sidebarUrl

/-- A page with a certain stylesheet. -/
def pageWith (viewer : Viewer) (stylesheet : Stylesheet) (address : Address) : Fetching Page := do
  let document ← viewer.document address
  let sidebar ← viewer.sidebar
  return {
    address := address
    content := document.html
    headings := document.headings
    sidebar := sidebar
    stylesheet := stylesheet
    fontsUrl := viewer.theme.fontsUrl }

/-- A page that refers to the stylesheet by its route. -/
def page (viewer : Viewer) (address : Address) : Fetching Page :=
  viewer.pageWith (.link stylesheetRoute) address

/-- A page that holds its stylesheet. -/
def standalonePage (viewer : Viewer) (address : Address) : Fetching Page :=
  viewer.pageWith (.inline viewer.stylesheet) address

end Viewer

end DocSite
