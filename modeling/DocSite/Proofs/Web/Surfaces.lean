import DocSite.Proofs.Document.Highlighting
import DocSite.Proofs.Document.Injection
import DocSite.Proofs.Json.Reading
import DocSite.Proofs.Site.Addresses
import DocSite.Proofs.Site.Loading
import DocSite.Proofs.Site.PageParts
import DocSite.Proofs.Web.Answers

/-!
# One document on all surfaces

A document is shown by itself, on a page that refers to its stylesheet, on a page that holds it, and
as JSON. As long as the source answers the same, all of these show one document with one outline.
-/

namespace DocSite

open Document Html

/-! ## What is put on pages -/

namespace Document

theorem isMarkup_render {tools : Tools} (spans : tools.SpansCode) (stages : List Stage)
    (markdown : Text) : Vocabulary.document.IsMarkup (tools.render stages markdown) := by
  have free : MarkupWithin .inserted (tools.parse markdown) := fun event member =>
    Event.markupWithin_of_not_isMarkup (isMarkup_parse tools markdown event member)
  apply Writer.render_isMarkup Vocabulary.writer_le_document
  exact (free.runAll spans stages).mono Vocabulary.inserted_le_document

theorem level_pos_of_mem_outline (tools : Tools) (markdown : Text) :
    ∀ heading ∈ tools.outline markdown, 0 < heading.level := by
  intro heading member
  obtain ⟨span, -, found⟩ := List.mem_filterMap.mp member
  unfold headingAt? at found
  split at found
  · split at found
    · next bounds =>
        obtain rfl := Option.some.inj found
        simp only [Bool.and_eq_true, decide_eq_true_eq] at bounds
        exact Nat.lt_of_lt_of_le Nat.two_pos bounds.1
    · exact nomatch found
  · exact nomatch found

end Document

theorem Rendition.isMarkup_html {renderer : Renderer} (spans : renderer.tools.SpansCode)
    (content : Content) : Vocabulary.document.IsMarkup (of renderer content).html :=
  isMarkup_render spans renderer.stages content.text

theorem Rendition.level_pos_of_mem_headings (renderer : Renderer) (content : Content) :
    ∀ heading ∈ (of renderer content).headings, 0 < heading.level := by
  cases content with
  | markdown body => exact level_pos_of_mem_outline renderer.tools body
  | empty => simp [of]
  | unavailable => simp [of]

namespace Viewer

variable (viewer : Viewer) (source : Source) (address : Address)

section Readers

variable (spans : viewer.tools.SpansCode)
include spans

theorem isMarkup_renditionFrom :
    Vocabulary.document.IsMarkup (viewer.renditionFrom source address).html :=
  Rendition.isMarkup_html (show viewer.renderer.tools.SpansCode from spans) _

theorem documentIn?_pageWith (stylesheet : Stylesheet) :
    Page.documentIn? ((viewer.pageWith stylesheet address).result source).html =
      some (viewer.renditionFrom source address).html := by
  rw [pageWith_result, Page.documentIn?_html]
  dsimp only
  exact viewer.isMarkup_renditionFrom source address spans

theorem headingsIn?_pageWith (other : address ≠ .root) (stylesheet : Stylesheet) :
    Page.headingsIn? ((viewer.pageWith stylesheet address).result source).html =
      some (viewer.renditionFrom source address).headings := by
  rw [pageWith_result, Page.headingsIn?_html]
  · dsimp only
    exact viewer.isMarkup_renditionFrom source address spans
  · intro isRoot
    exact other (Address.ext_segments (List.isEmpty_iff.mp isRoot))
  · dsimp only
    exact Rendition.level_pos_of_mem_headings viewer.renderer _

end Readers

/-- Two pages of one address differ in their stylesheets only. -/
theorem pageWith_stylesheets :
    ∃ before after, ∀ stylesheet,
      ((viewer.pageWith stylesheet address).result source).html =
        before ++ Piece.writeAll (Page.stylesheetPieces stylesheet) ++ after := by
  obtain ⟨before, after, same⟩ :=
    Page.html_stylesheet ((viewer.pageWith (.link []) address).result source)
  refine ⟨before, after, fun stylesheet => ?_⟩
  rw [← same stylesheet, pageWith_result, pageWith_result]

end Viewer

/-! ## What is answered -/

namespace Web

/-- A body is JSON, and in the value that it is the written form of, a member has a certain
value. -/
def HasMember (body name : Text) (value : Json) : Prop :=
  (∃ json : Json, json.compact = body) ∧
    ∀ json : Json, json.compact = body →
      ∃ members, json = .object members ∧ members.lookup name = some value

theorem hasMember_object {members : List (Text × Json)} {name : Text} {value : Json}
    (found : members.lookup name = some value) :
    HasMember (Json.object members).compact name value := by
  refine ⟨⟨_, rfl⟩, fun json same => ⟨members, Json.compact_injective same, found⟩⟩

namespace Server

theorem viewJson_content (view : View) :
    HasMember (viewJson view).compact "content" (.string view.rendition.html) :=
  hasMember_object rfl

/-- A value is an object that has the level, the text and the id of a heading as members. -/
def DescribesHeading (entry : Json) (heading : Heading) : Prop :=
  ∃ members, entry = .object members ∧
    members.lookup "level".toList = some (.number heading.level) ∧
    members.lookup "text".toList = some (.string heading.text) ∧
    members.lookup "id".toList = some (.string heading.id)

theorem describesHeading_headingJson (heading : Heading) :
    DescribesHeading (headingJson heading) heading :=
  ⟨_, rfl, rfl, rfl, rfl⟩

theorem viewJson_headings (view : View) :
    ∃ entries, HasMember (viewJson view).compact "headings" (.list entries) ∧
      List.Forall₂ DescribesHeading entries view.rendition.headings := by
  refine ⟨view.rendition.headings.map headingJson, hasMember_object rfl, ?_⟩
  rw [List.forall₂_map_left_iff, List.forall₂_same]
  exact fun heading _ => describesHeading_headingJson heading

theorem result_of_document (viewer : Viewer) (source : Source) {target path decoded : Text}
    {address : Address} (leads : Route.ofPath? target = some (.document path))
    (isText : Text.ofUtf8? (percentDecode path) = some decoded)
    (parsed : parseAddress decoded = .ok address) :
    (respond viewer { method := "GET", target := { path := target } }).result source =
      (Response.json 200 (viewJson ((viewer.load address).result source)).compact).guarded := by
  have serves : get viewer (.document path) = withAddress path (serveDocument viewer) := rfl
  rw [respond_get viewer leads, serves, withAddress_ok isText parsed, serveDocument]
  simp only [Fetching.result_bind, Fetching.result_pure]

/-- A source that answers the same shows the same document everywhere: by itself, in the view, on a
page of either kind, and in the answer to every request for the document. All of these have the same
outline, which only the page at the root does not show. The two pages differ in their stylesheets
only. To read a document off a page, highlighted code has to be markup of spans. -/
theorem one_document_on_all_surfaces (viewer : Viewer) (spans : viewer.tools.SpansCode)
    (source : Source) (address : Address) :
    let document := (viewer.document address).result source
    let page := ((viewer.page address).result source).html
    let standalone := ((viewer.standalonePage address).result source).html
    ((viewer.load address).result source).rendition = document ∧
    Page.documentIn? page = some document.html ∧
    Page.documentIn? standalone = some document.html ∧
    (address ≠ .root →
      Page.headingsIn? page = some document.headings ∧
      Page.headingsIn? standalone = some document.headings) ∧
    (∀ target path decoded, Route.ofPath? target = some (.document path) →
      Text.ofUtf8? (percentDecode path) = some decoded → parseAddress decoded = .ok address →
      ∃ body entries,
        (respond viewer { method := "GET", target := { path := target } }).result source =
          (Response.json 200 body).guarded ∧
        HasMember body "content" (.string document.html) ∧
        HasMember body "headings" (.list entries) ∧
        List.Forall₂ DescribesHeading entries document.headings) ∧
    ∃ before after,
      page =
        before ++ Piece.writeAll (Page.stylesheetPieces (.link Viewer.stylesheetRoute)) ++ after ∧
      standalone =
        before ++ Piece.writeAll (Page.stylesheetPieces (.inline viewer.stylesheet)) ++ after := by
  intro document page standalone
  have shown : document = viewer.renditionFrom source address :=
    viewer.document_result source address
  rw [shown]
  refine ⟨rfl, viewer.documentIn?_pageWith source address spans _,
    viewer.documentIn?_pageWith source address spans _, fun other => ?_, ?_, ?_⟩
  · exact ⟨viewer.headingsIn?_pageWith source address spans other _,
      viewer.headingsIn?_pageWith source address spans other _⟩
  · intro target path decoded leads isText parsed
    obtain ⟨entries, headings, describe⟩ := viewJson_headings ((viewer.load address).result source)
    exact ⟨_, entries, result_of_document viewer source leads isText parsed, viewJson_content _,
      headings, describe⟩
  · obtain ⟨before, after, same⟩ := viewer.pageWith_stylesheets source address
    exact ⟨before, after, same _, same _⟩

/-- A heading with quotes and angle brackets, on a page that holds its stylesheet, and the answer to
a path with a slash at its end. -/
theorem one_document_on_all_surfaces_brackets :
    let viewer := Viewer.default
    let source : Source := fun _ => .ok "## A \"<b>\"\n".toList
    let address : Address := ⟨["sql".toList], by simp, by simp⟩
    viewer.tools.SpansCode ∧
      Page.headingsIn? ((viewer.standalonePage address).result source).html =
        some [{ level := 2, text := "A \"<b>\"", id := "a-\"<b>\"" }] ∧
      ∃ body members,
        (respond viewer { method := "GET", target := { path := "/api/docs/sql/" } }).result source =
          (Response.json 200 body).guarded ∧
        HasMember body "content" (.string ((viewer.document address).result source).html) ∧
        HasMember body "headings" (.list [.object members]) ∧
        members.lookup "level".toList = some (.number 2) ∧
        members.lookup "text".toList = some (.string "A \"<b>\"") ∧
        members.lookup "id".toList = some (.string "a-\"<b>\"") := by
  intro viewer source address
  have spans : viewer.tools.SpansCode := Tools.standard_spansCode
  have surfaces := one_document_on_all_surfaces viewer spans source address
  have headings : ((viewer.document address).result source).headings =
      [{ level := 2, text := "A \"<b>\"", id := "a-\"<b>\"" }] := by
    decide +kernel
  have outlines := surfaces.2.2.2.1 (by simp [address, Address.root])
  have answers := surfaces.2.2.2.2.1 "/api/docs/sql/" "sql/" "sql/" (by decide +kernel)
    (by decide +kernel) rfl
  obtain ⟨body, entries, answered, content, listed, describe⟩ := answers
  rw [headings] at outlines describe
  obtain ⟨entry, _, ⟨members, rfl, level, text, id⟩, rest, rfl⟩ :=
    List.forall₂_cons_right_iff.mp describe
  obtain rfl := List.forall₂_nil_right_iff.mp rest
  exact ⟨spans, outlines.2, body, members, answered, content, listed, level, text, id⟩

end Server

end Web

end DocSite
