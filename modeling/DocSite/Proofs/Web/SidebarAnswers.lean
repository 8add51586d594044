import DocSite.Proofs.Site.SidebarReading
import DocSite.Proofs.Web.Answers

/-!
# The sidebar that is answered

What the server answers for the table of contents is read as the table that it has read itself: it
has the same links in the same order, and none of their texts is changed.
-/

namespace DocSite.Web.Server

/-- A request for the table of contents. -/
def sidebarRequest : Request where
  method := "GET"
  target := { path := "/api/sidebar" }

theorem result_sidebarRequest {viewer : Viewer} {source : Source} {text : Text}
    {sidebar : Sidebar} (answered : source viewer.sidebarUrl = .ok text)
    (read : Sidebar.ofJson text = .ok sidebar) :
    (respond viewer sidebarRequest).result source =
      (Response.json 200 sidebar.toJson.compact).guarded := by
  have fetched : viewer.sidebar.result source =
      Sidebar.orEmpty (Sidebar.ofFetched (source viewer.sidebarUrl)) := rfl
  have found : Route.ofPath? "/api/sidebar" = some .sidebar := rfl
  rw [sidebarRequest, respond_get viewer found, get, Fetching.result_bind, Fetching.result_bind,
    fetched, answered, Sidebar.ofFetched, read, Sidebar.orEmpty, Fetching.result_pure,
    Fetching.result_pure]

/-- Every sidebar whose objects nest at most as deep as the reader goes is read as it was written,
and no other one is. What has been read of any text never nests deeper, so it is read again from
what the server answers. -/
theorem sidebar_round_trip :
    (∀ sidebar : Sidebar,
      Sidebar.ofJson sidebar.toJson.compact = .ok sidebar ↔ sidebar.toJson.nesting ≤ 127) ∧
    ∀ text sidebar, Sidebar.ofJson text = .ok sidebar →
      Sidebar.ofJson sidebar.toJson.compact = .ok sidebar ∧
      ∀ (viewer : Viewer) (source : Source), source viewer.sidebarUrl = .ok text →
        (respond viewer sidebarRequest).result source =
          (Response.json 200 sidebar.toJson.compact).guarded := by
  refine ⟨Sidebar.ofJson_compact_iff, fun text sidebar read => ⟨?_, ?_⟩⟩
  · exact Sidebar.ofJson_compact (Sidebar.nesting_ofJson read)
  · exact fun viewer source answered => result_sidebarRequest answered read

/-- A text with a key that comes twice, a link in the form of a list, an empty description and
subsections that are null. -/
theorem sidebar_round_trip_two_forms :
    let viewer := Viewer.default
    let text : Text :=
      "\x7b\"a\": [\"A\", \"\\u0061\", \"\"], ".toList ++
        "\"a\": \x7b\"file\": \"b\", \"title\": \"<B>\\n\", \"subsections\": null\x7d\x7d".toList
    let sidebar : Sidebar :=
      .link ⟨"a".toList, "A".toList, "a".toList, some []⟩ .empty
        (.link ⟨"a".toList, "<B>\n".toList, "b".toList, none⟩ .empty .empty)
    Sidebar.ofJson sidebar.toJson.compact = .ok sidebar ∧
      (respond viewer sidebarRequest).result (fun _ => .ok text) =
        (Response.json 200 sidebar.toJson.compact).guarded := by
  intro viewer text sidebar
  obtain ⟨again, answers⟩ := sidebar_round_trip.2 text sidebar (by decide +kernel)
  exact ⟨again, answers viewer _ rfl⟩

end DocSite.Web.Server
