import DocSite.Json.Value
import DocSite.Site.Viewer
import DocSite.Web.Response
import DocSite.Web.Uri

/-!
# The server

The server answers requests with the pages of a viewer, with their documents as JSON, with the table
of contents and with the stylesheet. Which of these is asked for follows from the path alone, and
what is fetched for it follows from the address in the path.
-/

namespace DocSite.Web

/-- A request. -/
structure Request where
  /-- The method. -/
  method : Text
  /-- The target. -/
  target : Target
  deriving DecidableEq, Repr

/-- Where a path leads. -/
inductive Route
  /-- The start of the site. -/
  | start
  /-- A page, by the part of the path behind the prefix. -/
  | page (path : Text)
  /-- The document of a page as JSON. -/
  | document (path : Text)
  /-- The table of contents as JSON. -/
  | sidebar
  /-- The stylesheet. -/
  | stylesheet
  deriving DecidableEq, Repr

namespace Route

/-- The part of a path below a prefix; the prefix by itself may lack its slash. -/
def below? (routePrefix path : Text) : Option Text :=
  if path = routePrefix then some []
  else if Text.startsWith path (routePrefix ++ ['/']) then
    some (path.drop (routePrefix.length + 1))
  else none

/-- Where a path leads, if it leads anywhere. -/
def ofPath? (path : Text) : Option Route :=
  if path = "/".toList then some start
  else if path = "/theme.css".toList then some stylesheet
  else if path = "/api/sidebar".toList then some sidebar
  else
    match below? "/docs" path with
    | some rest => some (page rest)
    | none => (below? "/api/docs" path).map document

end Route

namespace Server

/-- Why a path names no page. -/
structure PageError where
  /-- The path. -/
  path : Text
  /-- Why it is no address. -/
  reason : AddressError
  deriving DecidableEq, Repr

/-- The address that a path names. -/
def parseAddress (path : Text) : Except PageError Address :=
  (Address.ofSegments (Text.splitAt (· == '/') path)).mapError fun reason => { path, reason }

/-- The response to a path that names no page. -/
def pageNotFound (error : PageError) : Response :=
  .json 404 (Json.object [
    ("error".toList, .string "Page not found"),
    ("path".toList, .string error.path),
    ("reason".toList, .string error.reason.message)]).compact

/-- A heading as JSON. -/
def headingJson (heading : Document.Heading) : Json :=
  .object [("level".toList, .number heading.level), ("text".toList, .string heading.text),
    ("id".toList, .string heading.id)]

/-- A text that may be absent as JSON. -/
def optionalJson : Option Text → Json
  | some text => .string text
  | none => .null

/-- A view as JSON. -/
def viewJson (view : View) : Json :=
  .object [
    ("path".toList, .string ((view.address.map Address.route).getD [])),
    ("url".toList, optionalJson view.url),
    ("state".toList, .string view.phase.name),
    ("markdown".toList, .string view.rendition.content.text),
    ("content".toList, .string view.rendition.html),
    ("headings".toList, .list (view.rendition.headings.map headingJson))]

/-- Answers with what belongs to the address in a path, if it holds one. -/
def withAddress (path : Text) (answer : Address → Fetching Response) : Fetching Response :=
  match Text.ofUtf8? (percentDecode path) with
  | none => return .invalidPath
  | some decoded =>
    match parseAddress decoded with
    | .error error => return pageNotFound error
    | .ok address => answer address

/-- The response to a request for the thing at a route. -/
def get (viewer : Viewer) : Route → Fetching Response
  | .start => return .redirect "/docs"
  | .page path => withAddress path fun address => do
    return .page (← viewer.page address).html
  | .document path => withAddress path fun address => do
    return .json 200 (viewJson (← viewer.load address)).compact
  | .sidebar => do
    return .json 200 (← viewer.sidebar).toJson.compact
  | .stylesheet => return .stylesheet viewer.stylesheet

/-- What is answered to a request, without the headers that guard pages. -/
def answer (viewer : Viewer) (request : Request) : Fetching Response :=
  match Route.ofPath? request.target.path with
  | none => return .notFound
  | some route =>
    if request.method = "GET".toList then get viewer route
    else if request.method = "HEAD".toList then do
      return (← get viewer route).withoutBody
    else return .methodNotAllowed

/-- The response to a request. Whatever is answered, the headers that guard pages are set. -/
def respond (viewer : Viewer) (request : Request) : Fetching Response := do
  return (← answer viewer request).guarded

end Server

end DocSite.Web
