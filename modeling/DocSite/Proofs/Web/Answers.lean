import DocSite.Proofs.Site.Fetching
import DocSite.Proofs.Web.Paths
import DocSite.Web.Server

/-!
# What the answers of the server depend on

Whether a page is found depends on the path that is asked for, and not on what the source of the
documents answers. What cannot be fetched is shown as missing on a page that is there. The headers
that guard a page are on every response.
-/

namespace DocSite.Web

/-! ## Headers -/

namespace Response

/-- The values of the headers with a name. -/
def valuesOf (response : Response) (name : Text) : List Text :=
  (response.headers.filter fun header => header.1 == name).map Prod.snd

/-- Each of the headers that guard pages is there just once, and has its value. -/
structure Guarded (response : Response) : Prop where
  contentPolicy : response.valuesOf "content-security-policy" =
    ["default-src 'self'; script-src 'none'; ".toList ++
      "style-src 'self' 'unsafe-inline' https://fonts.googleapis.com; ".toList ++
      "font-src 'self' https://fonts.gstatic.com; img-src 'self' data: https:; ".toList ++
      "connect-src 'self'; frame-ancestors 'none'".toList]
  contentTypeOptions : response.valuesOf "x-content-type-options" = ["nosniff".toList]
  frameOptions : response.valuesOf "x-frame-options" = ["DENY".toList]

/-- A header that is set has one value. -/
theorem valuesOf_withHeader_self (response : Response) (header : Header) :
    (response.withHeader header).valuesOf header.1 = [header.2] := by
  have noOther : (response.headers.filter fun other => other.1 != header.1).filter
      (fun other => other.1 == header.1) = [] := by
    rw [List.filter_filter, List.filter_eq_nil_iff]
    simp
  have own : [header].filter (fun other => other.1 == header.1) = [header] :=
    List.filter_cons_of_pos (beq_self_eq_true header.1)
  rw [valuesOf, withHeader, List.filter_append, noOther, own]
  rfl

/-- The other headers are as they were. -/
theorem valuesOf_withHeader_of_ne (response : Response) {header : Header} {name : Text}
    (different : header.1 ≠ name) :
    (response.withHeader header).valuesOf name = response.valuesOf name := by
  have kept : (response.headers.filter fun other => other.1 != header.1).filter
      (fun other => other.1 == name) = response.headers.filter fun other => other.1 == name := by
    rw [List.filter_filter]
    refine List.filter_congr fun other _ => ?_
    rw [Bool.and_eq_left_iff_imp]
    intro isName
    rw [eq_of_beq isName, bne_iff_ne]
    exact different.symm
  have noOther : [header].filter (fun other => other.1 == name) = [] :=
    List.filter_cons_of_neg (by simpa using different)
  rw [valuesOf, withHeader, List.filter_append, kept, noOther, List.append_nil, valuesOf]

/-- Whatever headers a response has of its own, those that guard pages take their places. -/
theorem guarded_guarded (response : Response) : response.guarded.Guarded := by
  let policy : Header := ("content-security-policy".toList, contentPolicy)
  let noSniffing : Header := ("x-content-type-options".toList, "nosniff".toList)
  let noFrames : Header := ("x-frame-options".toList, "DENY".toList)
  have layers : response.guarded =
      ((response.withHeader policy).withHeader noSniffing).withHeader noFrames := rfl
  rw [layers]
  constructor
  · rw [valuesOf_withHeader_of_ne _ (by decide), valuesOf_withHeader_of_ne _ (by decide)]
    exact (valuesOf_withHeader_self response policy).trans (by decide +kernel)
  · rw [valuesOf_withHeader_of_ne _ (by decide)]
    exact valuesOf_withHeader_self _ noSniffing
  · exact valuesOf_withHeader_self _ noFrames

end Response

/-! ## Routes -/

namespace Route

theorem ofPath?_page (path : Text) : ofPath? ("/docs/".toList ++ path) = some (.page path) := by
  simp [ofPath?, below?, Text.startsWith, List.isPrefixOf]

theorem ofPath?_document (path : Text) :
    ofPath? ("/api/docs/".toList ++ path) = some (.document path) := by
  simp [ofPath?, below?, Text.startsWith, List.isPrefixOf]

end Route

namespace Server

theorem respond_get (viewer : Viewer) {path : Text} {route : Route}
    (found : Route.ofPath? path = some route) :
    respond viewer { method := "GET", target := { path } } = do
      return (← get viewer route).guarded := by
  simp [respond, answer, found]

/-- A request for a page, by the part of its path behind the prefix. -/
def pageRequest (path : Text) : Request where
  method := "GET"
  target := { path := "/docs/".toList ++ path }

/-- A request for the document of a page, by the part of its path behind the prefix. -/
def documentRequest (path : Text) : Request where
  method := "GET"
  target := { path := "/api/docs/".toList ++ path }

/-- Answers with a page. -/
def servePage (viewer : Viewer) (address : Address) : Fetching Response := do
  return .page (← viewer.page address).html

/-- Answers with the document of a page. -/
def serveDocument (viewer : Viewer) (address : Address) : Fetching Response := do
  return .json 200 (viewJson (← viewer.load address)).compact

theorem respond_pageRequest (viewer : Viewer) (path : Text) :
    respond viewer (pageRequest path) = do
      return (← withAddress path (servePage viewer)).guarded :=
  respond_get viewer (Route.ofPath?_page path)

theorem respond_documentRequest (viewer : Viewer) (path : Text) :
    respond viewer (documentRequest path) = do
      return (← withAddress path (serveDocument viewer)).guarded :=
  respond_get viewer (Route.ofPath?_document path)

section Paths

variable {path decoded : Text} (isText : Text.ofUtf8? (percentDecode path) = some decoded)
include isText

theorem withAddress_ok {address : Address} (parsed : parseAddress decoded = .ok address)
    (answer : Address → Fetching Response) : withAddress path answer = answer address := by
  simp only [withAddress, isText, parsed]

theorem withAddress_error {error : PageError} (parsed : parseAddress decoded = .error error)
    (answer : Address → Fetching Response) :
    withAddress path answer = pure (pageNotFound error) := by
  simp only [withAddress, isText, parsed]

/-- Something is found on a path if and only if the path is that of a page. -/
theorem withAddress_found (answer : Address → Fetching Response)
    (found : ∀ address, (answer address).Always fun response => response.status = 200) :
    (withAddress path answer).Always fun response =>
      response.status = 200 ↔ ∃ address, parseAddress decoded = .ok address := by
  cases parsed : parseAddress decoded with
  | error error =>
      rw [withAddress_error isText parsed]
      exact .done (by simp [pageNotFound, Response.json])
  | ok address =>
      rw [withAddress_ok isText parsed]
      exact (found address).mono fun response status => by simp [status]

end Paths

end Server

/-! ## Answers and sources -/

namespace Server

theorem servePage_found (viewer : Viewer) (address : Address) :
    (servePage viewer address).Always fun response => response.status = 200 :=
  Fetching.always_map _ fun _ => rfl

theorem serveDocument_found (viewer : Viewer) (address : Address) :
    (serveDocument viewer address).Always fun response => response.status = 200 :=
  Fetching.always_map _ fun _ => rfl

/-- What a source answers has no part in whether a page or its document is found: each is found if
and only if the path holds an address. If it holds none, both requests get the same response, which
tells the path and what is wrong with it, and nothing is fetched. All responses to all requests have
the headers that guard pages. -/
theorem answers_independent_of_source (viewer : Viewer) :
    (∀ path decoded, Text.ofUtf8? (percentDecode path) = some decoded →
      let page := respond viewer (pageRequest path)
      let document := respond viewer (documentRequest path)
      let found := fun response : Response =>
        response.status = 200 ↔ ∃ address, parseAddress decoded = .ok address
      page.Always found ∧ document.Always found ∧
        ∀ error, parseAddress decoded = .error error →
          ∃ response, page = .done response ∧ document = .done response ∧
            response.status = 404 ∧
            response.body = (Json.object [
              ("error".toList, .string "Page not found"),
              ("path".toList, .string decoded),
              ("reason".toList, .string error.reason.message)]).compact) ∧
      ∀ request, (respond viewer request).Always Response.Guarded := by
  refine ⟨fun path decoded isText => ?_, fun request =>
    Fetching.always_map _ Response.guarded_guarded⟩
  rw [respond_pageRequest, respond_documentRequest]
  refine ⟨(withAddress_found isText _ (servePage_found viewer)).bind fun _ found => .done found,
    (withAddress_found isText _ (serveDocument_found viewer)).bind fun _ found => .done found,
    fun error parsed => ?_⟩
  rw [withAddress_error isText parsed, withAddress_error isText parsed]
  have pathKept : error.path = decoded := path_of_parseAddress parsed
  refine ⟨(pageNotFound error).guarded, rfl, rfl, rfl, ?_⟩
  rw [← pathKept]
  rfl

/-- A path with a gap, a path in which a space is encoded, and a path that leads nowhere. -/
theorem answers_independent_of_source_three_paths :
    let viewer := Viewer.default
    (∃ response, respond viewer (pageRequest "a//b".toList) = .done response ∧
      respond viewer (documentRequest "a//b".toList) = .done response ∧ response.status = 404) ∧
    (respond viewer (documentRequest "sql/a%20b/".toList)).Always
      (fun response => response.status = 200) ∧
    (respond viewer ⟨"PUT".toList, ⟨"/nowhere".toList⟩⟩).Always fun response =>
      response.valuesOf "x-content-type-options" = ["nosniff".toList] ∧
        response.valuesOf "x-frame-options" = ["DENY".toList] := by
  intro viewer
  have answers := answers_independent_of_source viewer
  have gap := answers.1 "a//b".toList "a//b".toList (by decide +kernel)
  have space := answers.1 "sql/a%20b/".toList "sql/a b/".toList (by decide +kernel)
  refine ⟨?_, ?_, (answers.2 _).mono fun response guarded =>
    ⟨guarded.contentTypeOptions, guarded.frameOptions⟩⟩
  · obtain ⟨response, page, document, status, -⟩ :=
      gap.2.2 ⟨"a//b".toList, .missingParent .subsubpage .subpage⟩ rfl
    exact ⟨response, page, document, status⟩
  · have parsed : ∃ address, parseAddress "sql/a b/".toList = .ok address :=
      ⟨⟨["sql".toList, "a b".toList], by simp, by simp⟩, rfl⟩
    exact space.2.1.mono fun response found => found.mpr parsed

end Server

end DocSite.Web
