import DocSite.Document.Stage
import DocSite.Site.Fetch
import DocSite.Site.Location

/-!
# Views

A view shows one page at a time. Every navigation hands out a ticket, and only the ticket of the
latest navigation can deliver a document: an answer that comes late for an earlier page never
replaces the page that is shown.
-/

namespace DocSite

/-! ## Rendered documents -/

/-- A fetched document, its outline and its markup. -/
structure Rendition where
  /-- What was fetched. -/
  content : Content
  /-- The outline of the document. -/
  headings : List Document.Heading
  /-- The document as markup. -/
  html : Text
  deriving DecidableEq, Repr

namespace Rendition

/-- The rendition before anything is fetched. -/
def blank : Rendition where
  content := .empty
  headings := []
  html := []

/-- Renders a document. Only a document that was fetched has an outline. -/
def of (renderer : Document.Renderer) (content : Content) : Rendition where
  content := content
  headings :=
    match content with
    | .markdown body => renderer.tools.outline body
    | .empty => []
    | .unavailable => []
  html := renderer.render content.text

end Rendition

/-! ## Views -/

/-- What a view is doing. -/
inductive Phase
  /-- Nothing has been asked for. -/
  | idle
  /-- The document of the current page is awaited. -/
  | fetching
  /-- The document is shown. -/
  | rendered
  /-- The document could not be fetched; a placeholder is shown. -/
  | fetchFailed
  deriving DecidableEq, Repr

/-- The name of a phase. -/
def Phase.name : Phase → Text
  | idle => "idle"
  | fetching => "fetching"
  | rendered => "rendered"
  | fetchFailed => "fetch_failed"

/-- The right to deliver the document of one navigation. -/
structure Ticket where
  /-- The number of the navigation. -/
  generation : Nat
  /-- The page that was navigated to. -/
  address : Address
  /-- The URL of its document. -/
  url : Text
  deriving DecidableEq, Repr

/-- What became of a delivery. -/
inductive Delivery
  /-- The document is shown. -/
  | applied
  /-- The view has moved on, and nothing changed. -/
  | stale
  deriving DecidableEq, Repr

/-- A view of the site. -/
structure View where
  /-- Where the documents are. -/
  location : Location
  /-- What the view is doing. -/
  phase : Phase
  /-- The number of navigations so far. -/
  generation : Nat
  /-- The current page. -/
  address : Option Address
  /-- The URL of its document. -/
  url : Option Text
  /-- What is shown. -/
  rendition : Rendition
  deriving DecidableEq, Repr

namespace View

/-- A view that has not navigated yet. -/
def new (location : Location) : View where
  location := location
  phase := .idle
  generation := 0
  address := none
  url := none
  rendition := .blank

/-- Goes to a page: what was shown is cleared, and a ticket for the page's document is given. -/
def navigate (view : View) (address : Address) : View × Ticket :=
  let url := view.location.url address
  let generation := view.generation + 1
  ({ view with
      phase := .fetching
      generation := generation
      address := some address
      url := some url
      rendition := .blank },
    { generation, address, url })

/-- Delivers what was fetched for a ticket. -/
def resolve (view : View) (renderer : Document.Renderer) (ticket : Ticket) (answer : Fetched) :
    View × Delivery :=
  if ticket.generation = view.generation then
    let content := Content.ofFetched answer
    ({ view with
        phase := if content.isUnavailable then .fetchFailed else .rendered
        rendition := .of renderer content },
      .applied)
  else (view, .stale)

/-- Goes to a page, fetches its document and delivers it. -/
def load (view : View) (renderer : Document.Renderer) (address : Address) :
    Fetching (View × Delivery) := do
  let (view, ticket) := view.navigate address
  let answer ← Fetching.fetch ticket.url
  return view.resolve renderer ticket answer

end View

end DocSite
