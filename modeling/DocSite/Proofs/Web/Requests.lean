import DocSite.Proofs.Site.Fetching
import DocSite.Proofs.Web.Surfaces

/-!
# What the server fetches

What is fetched for a request follows from its method and its path, whatever the answers are: for a
page its document and then the table of contents, for a document or the table of contents just
that, and for any other request nothing.
-/

namespace DocSite.Web

/-- The path is a prefix by itself, or what stands behind it and a slash. -/
inductive Below (start : Text) : (path : Text) → (rest : Text) → Prop
  | itself : Below start start []
  | behind (rest : Text) : Below start (start ++ '/' :: rest) rest

/-- Whether a request asks for what is at its path. -/
def Request.IsRead (request : Request) : Prop :=
  request.method = "GET".toList ∨ request.method = "HEAD".toList

/-- The part of a path stands for a text that names a page. -/
def Names (rest : Text) (address : Address) : Prop :=
  ∃ decoded, Text.ofUtf8? (percentDecode rest) = some decoded ∧
    Server.parseAddress decoded = .ok address

/-- The URLs that a request makes the server ask for, in order. -/
inductive Fetches (viewer : Viewer) (request : Request) : List Text → Prop
  | page {rest : Text} {address : Address} :
      request.IsRead → Below "/docs" request.target.path rest → Names rest address →
      Fetches viewer request [viewer.location.url address, viewer.sidebarUrl]
  | document {rest : Text} {address : Address} :
      request.IsRead → Below "/api/docs" request.target.path rest → Names rest address →
      Fetches viewer request [viewer.location.url address]
  | sidebar :
      request.IsRead → request.target.path = "/api/sidebar".toList →
      Fetches viewer request [viewer.sidebarUrl]
  | otherMethod : ¬request.IsRead → Fetches viewer request []
  | rejected {start rest : Text} :
      start = "/docs".toList ∨ start = "/api/docs".toList →
      Below start request.target.path rest → (∀ address, ¬Names rest address) →
      Fetches viewer request []
  | elsewhere :
      (∀ rest, ¬Below "/docs" request.target.path rest) →
      (∀ rest, ¬Below "/api/docs" request.target.path rest) →
      request.target.path ≠ "/api/sidebar".toList → Fetches viewer request []

/-! ## Routes -/

namespace Route

variable {start path rest : Text}

theorem below?_eq_some_iff : below? start path = some rest ↔ Below start path rest := by
  constructor
  · intro found
    rw [below?] at found
    split at found
    · next same =>
        obtain rfl := Option.some.inj found
        exact same ▸ .itself
    · split at found
      · next starts =>
          obtain ⟨behind, rfl⟩ := List.isPrefixOf_iff_prefix.mp starts
          obtain rfl := Option.some.inj found
          have below : Below start (start ++ '/' :: behind) behind := .behind behind
          simpa using below
      · cases found
  · rintro (_ | rest)
    · exact if_pos rfl
    · have other : start ++ '/' :: rest ≠ start := by simp
      have starts : Text.startsWith (start ++ '/' :: rest) (start ++ ['/']) = true :=
        List.isPrefixOf_iff_prefix.mpr ⟨rest, by simp⟩
      rw [below?, if_neg other, if_pos starts]
      simp

theorem ofPath?_of_below_docs (below : Below "/docs" path rest) :
    ofPath? path = some (.page rest) := by
  cases below with
  | itself => rfl
  | behind rest => exact ofPath?_page rest

theorem ofPath?_of_below_apiDocs (below : Below "/api/docs" path rest) :
    ofPath? path = some (.document rest) := by
  cases below with
  | itself => rfl
  | behind rest => exact ofPath?_document rest

theorem ofPath?_elsewhere (noPage : ∀ rest, ¬Below "/docs" path rest)
    (noDocument : ∀ rest, ¬Below "/api/docs" path rest) (other : path ≠ "/api/sidebar".toList) :
    ofPath? path = none ∨ ofPath? path = some .start ∨ ofPath? path = some .stylesheet := by
  have none {start : Text} (noRest : ∀ rest, ¬Below start path rest) : below? start path = none :=
    Option.eq_none_iff_forall_ne_some.mpr fun rest found =>
      noRest rest (below?_eq_some_iff.mp found)
  rw [ofPath?, if_neg other, none noPage, none noDocument]
  split
  · exact .inr (.inl rfl)
  · split
    · exact .inr (.inr rfl)
    · exact .inl rfl

end Route

/-! ## Answers -/

namespace Server

variable {viewer : Viewer} {request : Request} {route : Route} {urls : List Text} {rest : Text}
  {address : Address}

theorem asks_servePage (viewer : Viewer) (address : Address) :
    (servePage viewer address).Asks [viewer.location.url address, viewer.sidebarUrl] :=
  .ask fun _ => .ask fun _ => .done

theorem asks_serveDocument (viewer : Viewer) (address : Address) :
    (serveDocument viewer address).Asks [viewer.location.url address] :=
  .ask fun _ => .done

theorem asks_withAddress {answer : Address → Fetching Response} (names : Names rest address)
    (asks : (answer address).Asks urls) : (withAddress rest answer).Asks urls := by
  obtain ⟨decoded, isText, parsed⟩ := names
  rwa [withAddress_ok isText parsed]

/-- A path that names no page is answered at once. -/
theorem asks_withAddress_rejected (rejected : ∀ address, ¬Names rest address)
    (answer : Address → Fetching Response) : (withAddress rest answer).Asks [] := by
  cases isText : Text.ofUtf8? (percentDecode rest) with
  | none =>
      rw [withAddress, isText]
      exact .done
  | some decoded =>
      cases parsed : parseAddress decoded with
      | ok address => exact (rejected address ⟨decoded, isText, parsed⟩).elim
      | error error =>
          rw [withAddress_error isText parsed]
          exact .done

theorem asks_respond (found : Route.ofPath? request.target.path = some route)
    (asks : request.IsRead → (get viewer route).Asks urls)
    (other : ¬request.IsRead → urls = []) : (respond viewer request).Asks urls := by
  refine Fetching.Asks.map ?_ Response.guarded
  rw [answer, found]
  by_cases isGet : request.method = "GET".toList
  · simp only [if_pos isGet]
    exact asks (.inl isGet)
  by_cases isHead : request.method = "HEAD".toList
  · simp only [if_neg isGet, if_pos isHead]
    exact (asks (.inr isHead)).map _
  · simp only [if_neg isGet, if_neg isHead, other fun read => read.elim isGet isHead]
    exact .done

theorem asks_of_fetches (fetches : Fetches viewer request urls) :
    (respond viewer request).Asks urls := by
  cases fetches with
  | page read below names =>
      refine asks_respond (Route.ofPath?_of_below_docs below) (fun _ => ?_) (absurd read)
      exact asks_withAddress names (asks_servePage viewer _)
  | document read below names =>
      refine asks_respond (Route.ofPath?_of_below_apiDocs below) (fun _ => ?_) (absurd read)
      exact asks_withAddress names (asks_serveDocument viewer _)
  | sidebar read same =>
      have found : Route.ofPath? request.target.path = some .sidebar := by
        rw [same]
        rfl
      exact asks_respond found (fun _ => .ask fun _ => .done) (absurd read)
  | otherMethod other =>
      cases found : Route.ofPath? request.target.path with
      | none =>
          rw [respond, answer, found]
          exact .done
      | some route => exact asks_respond found (absurd · other) fun _ => rfl
  | rejected start below rejected =>
      rcases start with rfl | rfl
      · refine asks_respond (Route.ofPath?_of_below_docs below) (fun _ => ?_) fun _ => rfl
        exact asks_withAddress_rejected rejected _
      · refine asks_respond (Route.ofPath?_of_below_apiDocs below) (fun _ => ?_) fun _ => rfl
        exact asks_withAddress_rejected rejected _
  | elsewhere noPage noDocument other =>
      rcases Route.ofPath?_elsewhere noPage noDocument other with found | found | found
      · rw [respond, answer, found]
        exact .done
      · exact asks_respond found (fun _ => .done) fun _ => rfl
      · exact asks_respond found (fun _ => .done) fun _ => rfl

/-- What is fetched is said of every request. -/
theorem exists_fetches (viewer : Viewer) (request : Request) :
    ∃ urls, Fetches viewer request urls := by
  by_cases read : request.IsRead
  · by_cases page : ∃ rest, Below "/docs" request.target.path rest
    · obtain ⟨rest, below⟩ := page
      by_cases names : ∃ address, Names rest address
      · obtain ⟨address, names⟩ := names
        exact ⟨_, .page read below names⟩
      · exact ⟨_, .rejected (.inl rfl) below (not_exists.mp names)⟩
    by_cases document : ∃ rest, Below "/api/docs" request.target.path rest
    · obtain ⟨rest, below⟩ := document
      by_cases names : ∃ address, Names rest address
      · obtain ⟨address, names⟩ := names
        exact ⟨_, .document read below names⟩
      · exact ⟨_, .rejected (.inr rfl) below (not_exists.mp names)⟩
    by_cases sidebar : request.target.path = "/api/sidebar".toList
    · exact ⟨_, .sidebar read sidebar⟩
    · exact ⟨_, .elsewhere (not_exists.mp page) (not_exists.mp document) sidebar⟩
  · exact ⟨_, .otherMethod read⟩

/-! ## Requests one after the other -/

/-- The responses to requests, each of which is handled when those before it are over. -/
def respondAll (viewer : Viewer) : List Request → Fetching (List Response)
  | [] => return []
  | request :: rest => do
    let response ← respond viewer request
    return response :: (← respondAll viewer rest)

theorem asks_respondAll {requests : List Request} {parts : List (List Text)}
    (fetches : List.Forall₂ (Fetches viewer) requests parts) :
    (respondAll viewer requests).Asks parts.flatten := by
  induction fetches with
  | nil => exact .done
  | cons first _ induction =>
      exact (asks_of_fetches first).bind fun response => induction.map (response :: ·)

theorem exists_forall₂_fetches (viewer : Viewer) (requests : List Request) :
    ∃ parts, List.Forall₂ (Fetches viewer) requests parts := by
  induction requests with
  | nil => exact ⟨[], .nil⟩
  | cons request requests induction =>
      obtain ⟨urls, first⟩ := exists_fetches viewer request
      obtain ⟨parts, rest⟩ := induction
      exact ⟨urls :: parts, .cons first rest⟩

theorem url_load (viewer : Viewer) (address : Address) :
    (viewer.load address).Always fun view => view.url = some (viewer.location.url address) :=
  .ask fun _ => .done rfl

theorem viewJson_url {view : View} {url : Text} (same : view.url = some url) :
    HasMember (viewJson view).compact "url" (.string url) := by
  apply hasMember_object
  rw [same]
  rfl

/-- The URLs that are asked for while requests are handled are those of the requests, one after the
other, whatever the answers are. The one that is asked for a page or its document is told in the
answer to every request for the document. -/
theorem fetches_in_order (viewer : Viewer) :
    (∀ requests urls, (respondAll viewer requests).Asks urls ↔
      ∃ parts, List.Forall₂ (Fetches viewer) requests parts ∧ urls = parts.flatten) ∧
    ∀ request rest address, request.method = "GET".toList →
      Below "/api/docs" request.target.path rest → Names rest address →
      (respond viewer request).Always fun response =>
        response.status = 200 ∧
          HasMember response.body "url" (.string (viewer.location.url address)) := by
  refine ⟨fun requests urls => ⟨fun asks => ?_, ?_⟩, ?_⟩
  · obtain ⟨parts, fetches⟩ := exists_forall₂_fetches viewer requests
    exact ⟨parts, fetches, asks.unique (asks_respondAll fetches)⟩
  · rintro ⟨parts, fetches, rfl⟩
    exact asks_respondAll fetches
  · intro request rest address isGet below ⟨decoded, isText, parsed⟩
    have serves : get viewer (.document rest) = withAddress rest (serveDocument viewer) := rfl
    rw [respond, answer, Route.ofPath?_of_below_apiDocs below]
    simp only [if_pos isGet]
    rw [serves, withAddress_ok isText parsed]
    have tells : (serveDocument viewer address).Always fun response => response.status = 200 ∧
        HasMember response.body "url" (.string (viewer.location.url address)) :=
      (url_load viewer address).bind fun view same => .done ⟨rfl, viewJson_url same⟩
    exact tells.bind fun _ told => .done told

theorem fetches_in_order_six_requests :
    let viewer := Viewer.default
    let url := viewer.location.url ⟨["sql".toList], by simp, by simp⟩
    let document : Request := ⟨"GET", ⟨"/api/docs/sql/"⟩⟩
    (respondAll viewer
      [⟨"GET", ⟨"/docs/sql"⟩⟩, document, ⟨"HEAD", ⟨"/api/sidebar"⟩⟩, ⟨"GET", ⟨"/"⟩⟩,
        ⟨"POST", ⟨"/docs"⟩⟩, ⟨"GET", ⟨"/docs/a//b"⟩⟩]).Asks
      [url, viewer.sidebarUrl, url, viewer.sidebarUrl] ∧
    (respond viewer document).Always fun response =>
      response.status = 200 ∧ HasMember response.body "url" (.string url) := by
  intro viewer url document
  have names : Names "sql" ⟨["sql".toList], by simp, by simp⟩ := ⟨"sql", by decide +kernel, rfl⟩
  have namesToo : Names "sql/" ⟨["sql".toList], by simp, by simp⟩ :=
    ⟨"sql/", by decide +kernel, rfl⟩
  have rejected : ∀ address, ¬Names "a//b" address := by
    rintro address ⟨decoded, isText, parsed⟩
    have same : Text.ofUtf8? (percentDecode "a//b".toList) = some "a//b".toList := by
      decide +kernel
    rw [same] at isText
    obtain rfl := Option.some.inj isText
    exact nomatch parsed
  have inOrder := fetches_in_order viewer
  constructor
  · rw [inOrder.1]
    refine ⟨[[url, viewer.sidebarUrl], [url], [viewer.sidebarUrl], [], [], []], ?_, rfl⟩
    refine .cons (.page (.inl rfl) (.behind _) names) ?_
    refine .cons (.document (.inl rfl) (.behind _) namesToo) ?_
    refine .cons (.sidebar (.inr rfl) rfl) ?_
    refine .cons (.elsewhere ?_ ?_ (by decide)) ?_
    · rintro rest below
      exact nomatch Route.ofPath?_of_below_docs below
    · rintro rest below
      exact nomatch Route.ofPath?_of_below_apiDocs below
    refine .cons (.otherMethod (by simp [Request.IsRead])) ?_
    exact .cons (.rejected (.inl rfl) (.behind _) rejected) .nil
  · exact inOrder.2 document "sql/" _ rfl (.behind _) namesToo

end Server

end DocSite.Web
