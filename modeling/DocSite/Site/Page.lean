import DocSite.Document.Outline
import DocSite.Html.Piece
import DocSite.Site.Address
import DocSite.Site.Sidebar

/-!
# Pages

A page of the site as markup: a bar at the top, then side by side the sidebar, the document and
the outline of the document. Only the document and a stylesheet are taken over as they are written;
everything else is text or an attribute, and is escaped.
-/

namespace DocSite

open Html (Piece)

/-- How a page refers to its stylesheet. -/
inductive Stylesheet
  /-- By its URL. -/
  | link (url : Text)
  /-- It is part of the page. -/
  | inline (rules : Text)
  deriving DecidableEq, Repr

/-- What a page shows. -/
structure Page where
  /-- The address of the page. -/
  address : Address
  /-- The document as markup. -/
  content : Text
  /-- The outline of the document. -/
  headings : List Document.Heading
  /-- The table of contents. -/
  sidebar : Sidebar
  /-- The stylesheet. -/
  stylesheet : Stylesheet
  /-- The URL of the stylesheet that brings the fonts. -/
  fontsUrl : Text

namespace Page

/-- The name of the site. -/
def siteName : Text := "jugadbase"

/-- Where the sources of the site's subject are. -/
def sourcesUrl : Text := "https://github.com/itssitanshu/jugadbase"

/-! ## Parts of markup -/

/-- A tag that opens an element. -/
def start (name : String) (attributes : List (String × Text)) : Piece :=
  .startTag name (attributes.map fun (name, value) => .of name.toList value)

/-- A tag that closes an element. -/
def finish (name : String) : Piece :=
  .endTag name

/-- A line break. -/
def newLine : Piece :=
  .text ['\n']

/-- An element on one line that holds only text. -/
def element (name : String) (attributes : List (String × Text)) (content : Text) : List Piece :=
  [start name attributes, .text content, finish name]

/-- A reference to a stylesheet. -/
def stylesheetLink (url : Text) : List Piece :=
  [start "link" [("rel", "stylesheet"), ("href", url)], newLine]

/-! ## Parts of a page -/

/-- The title of a page: its last segment and the name of the site. -/
def title (address : Address) : Text :=
  match address.segments.getLast? with
  | some segment => segment ++ " | ".toList ++ siteName ++ " docs".toList
  | none => siteName ++ " docs".toList

/-- The stylesheet of a page. -/
def stylesheetPieces : Stylesheet → List Piece
  | .link url => stylesheetLink url
  | .inline rules =>
    [start "style" [], newLine, .markup rules, finish "style", newLine]

/-- The head of a page. -/
def head (page : Page) : List Piece :=
  [start "head" [], newLine, start "meta" [("charset", "utf-8")], newLine,
    start "meta" [("name", "viewport"), ("content", "width=device-width, initial-scale=1")],
    newLine] ++
    element "title" [] (title page.address) ++ [newLine] ++
    stylesheetLink page.fontsUrl ++ stylesheetPieces page.stylesheet ++
    [finish "head", newLine]

/-- The bar at the top. -/
def navigation : List Piece :=
  [start "header" [("class", "navbar")], newLine] ++
    element "a" [("href", "/docs"), ("class", "brand")] siteName ++
    [newLine, start "nav" [], newLine] ++
    element "a" [("href", "/docs")] "Docs" ++ [newLine] ++
    element "a" [("href", sourcesUrl)] "GitHub" ++ [newLine] ++
    [finish "nav", newLine, finish "header", newLine]

/-- What is shown of a link by itself. -/
def linkPieces (link : SidebarLink) : List Piece :=
  element "a" [("href", link.href)] link.title ++
    (match link.description with
      | some description => element "div" [("class", "sidebar-description")] description
      | none => [])

/-- The pieces between the tags of a list, in a list with a line for either tag. -/
def listOf (items : List Piece) : List Piece :=
  [start "ul" [], newLine] ++ items ++ [finish "ul", newLine]

/-- The items for a list of links, those with subsections holding a list in turn. -/
def sidebarItems : Sidebar → List Piece
  | .empty => []
  | .link first subsections rest =>
    start "li" [] :: linkPieces first ++
      (if subsections.isEmpty then [] else newLine :: listOf (sidebarItems subsections)) ++
      [finish "li", newLine] ++ sidebarItems rest

/-- The table of contents. -/
def sidebarPieces (sidebar : Sidebar) : List Piece :=
  [start "aside" [("class", "sidebar")], newLine] ++
    element "h2" [] "Documentation" ++ [newLine] ++
    (if sidebar.isEmpty then [] else listOf (sidebarItems sidebar)) ++
    [finish "aside", newLine]

/-- The item for a heading. -/
def outlineItem (heading : Document.Heading) : List Piece :=
  start "li" [("class", "level-".toList ++ Text.ofNat (heading.level - 1))] ::
    element "a" [("href", '#' :: heading.id)] heading.text ++ [finish "li", newLine]

/-- The outline of a document. -/
def outlinePieces (headings : List Document.Heading) : List Piece :=
  [start "aside" [("class", "toc")], newLine] ++
    element "p" [] "On this document" ++ [newLine] ++
    listOf (headings.flatMap outlineItem) ++ [finish "aside", newLine]

/-- The document. -/
def contentPieces (content : Text) : List Piece :=
  [start "div" [("class", "content-wrapper")], newLine,
    start "div" [("class", "markdown-content")], newLine, .markup content, newLine,
    finish "div", newLine, finish "div", newLine]

/-- The body of a page. The page at the root shows no outline. -/
def body (page : Page) : List Piece :=
  [start "body" [], newLine] ++ navigation ++
    [start "div" [("class", "doc-wrapper")], newLine] ++
    sidebarPieces page.sidebar ++ contentPieces page.content ++
    (if page.address.isRoot then [] else outlinePieces page.headings) ++
    [finish "div", newLine, finish "body", newLine]

/-- A page as markup. -/
def pieces (page : Page) : List Piece :=
  [.markup "<!DOCTYPE html>", newLine, start "html" [("lang", "en")], newLine] ++
    page.head ++ page.body ++ [finish "html", newLine]

/-- A page as a text. -/
def html (page : Page) : Text :=
  Piece.writeAll page.pieces

end Page

end DocSite
