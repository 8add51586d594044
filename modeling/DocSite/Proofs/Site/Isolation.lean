import DocSite.Proofs.Document.Section
import DocSite.Proofs.Site.Loading
import DocSite.Proofs.Site.PageParts

/-!
# Failures that stay where they are

A page is put together from two answers. Each has its own places on the page, and nothing outside
of these depends on it. A failure is an answer like any other: in its places stand no links, or a
placeholder and no headings, and the rest of the page is as it would have been.
-/

namespace DocSite

open Html (Piece)
open Markdown (enclose)

/-! ## What is shown for an answer -/

namespace Sidebar

/-- The table of contents that is shown when a source answers so. -/
inductive ShownFor : Fetched → Sidebar → Prop
  | read {text : Text} {sidebar : Sidebar} :
      ofJson text = .ok sidebar → ShownFor (.ok text) sidebar
  | malformed {text : Text} {cause : SidebarError} :
      ofJson text = .error cause → ShownFor (.ok text) .empty
  | unreachable (cause : FetchError) : ShownFor (.error cause) .empty

/-- It is what the viewer makes of the answer. -/
theorem shownFor_iff {answer : Fetched} {sidebar : Sidebar} :
    ShownFor answer sidebar ↔ sidebar = orEmpty (ofFetched answer) := by
  constructor
  · intro shown
    cases shown with
    | read outcome => rw [ofFetched, outcome, orEmpty]
    | malformed outcome => rw [ofFetched, outcome, orEmpty]
    | unreachable cause => rfl
  · rintro rfl
    cases answer with
    | error cause => exact .unreachable cause
    | ok text =>
        rw [ofFetched]
        cases outcome : ofJson text with
        | ok sidebar => exact .read outcome
        | error cause => exact .malformed outcome

end Sidebar

namespace Rendition

open Document (Stage Tools)

/-- The document and the headings that are shown when a source answers so. -/
inductive ShownFor (tools : Tools) :
    Fetched → (html : Text) → (headings : List Document.Heading) → Prop
  | read (body : Text) :
      ShownFor tools (.ok body) (tools.render Stage.standard body) (tools.outline body)
  | unreachable (cause : FetchError) :
      ShownFor tools (.error cause) "<p>Error loading content.</p>" []

/-- If the placeholder is read as a paragraph, it is written as one. -/
theorem render_placeholder {tools : Tools}
    (paragraph : tools.read Content.placeholder = enclose .paragraph [.text Content.placeholder]) :
    tools.render Stage.standard Content.placeholder = "<p>Error loading content.</p>" := by
  have free : ∀ event ∈ (enclose .paragraph [.text Content.placeholder]).map Document.showMarkup,
      event.bounds = false := by decide
  rw [Tools.render, Tools.parse, paragraph, Document.runAll_of_free tools _ free]
  decide +kernel

variable {tools : Tools} {answer : Fetched} {html : Text} {headings : List Document.Heading}

/-- They are what a view renders from the answer. -/
theorem shownFor_iff
    (paragraph : tools.read Content.placeholder = enclose .paragraph [.text Content.placeholder]) :
    ShownFor tools answer html headings ↔
      html = (Rendition.of ⟨Stage.standard, tools⟩ (.ofFetched answer)).html ∧
        headings = (Rendition.of ⟨Stage.standard, tools⟩ (.ofFetched answer)).headings := by
  have placeholder : (Rendition.of ⟨Stage.standard, tools⟩ .unavailable).html =
      "<p>Error loading content.</p>" := render_placeholder paragraph
  constructor
  · intro shown
    cases shown with
    | read body => exact ⟨rfl, rfl⟩
    | unreachable cause => exact ⟨placeholder.symm, rfl⟩
  · intro same
    rw [same.1, same.2]
    cases answer with
    | ok body => exact .read body
    | error cause =>
        rw [Content.ofFetched, placeholder]
        exact .unreachable cause

end Rendition

/-! ## Places on a page -/

namespace Page

/-- The items of the outline on a page; the page at the root has none. -/
def outlineItems (address : Address) (headings : List Document.Heading) : Text :=
  if address.isRoot then [] else Piece.writeAll (headings.flatMap outlineItem)

/-- What stands before and behind the table of contents is the same for all of them. -/
theorem html_sidebar (page : Page) :
    ∃ before after, ∀ sidebar,
      { page with sidebar }.html =
        before ++ Piece.writeAll (sidebarPieces sidebar) ++ after := by
  let outline := if page.address.isRoot then [] else outlinePieces page.headings
  refine ⟨Piece.writeAll
      ([.markup "<!DOCTYPE html>", newLine, start "html" [("lang", "en")], newLine] ++
        (page.head ++ ([start "body" [], newLine] ++ navigation ++
          [start "div" [("class", "doc-wrapper")], newLine]))),
    Piece.writeAll (contentPieces page.content ++ outline ++
      [finish "div", newLine, finish "body", newLine] ++ [finish "html", newLine]),
    fun sidebar => ?_⟩
  have same : { page with sidebar }.head = page.head := rfl
  rw [html, pieces, body, same]
  simp only [writeAll_append, List.append_assoc, outline]

/-- What stands between and around the document and the items of its outline is the same for all
documents. -/
theorem html_places (page : Page) :
    ∃ before between after, ∀ content headings,
      { page with content, headings }.html =
        before ++ content ++ between ++ outlineItems page.address headings ++ after := by
  obtain ⟨before, parts⟩ := page.html_document
  by_cases isRoot : page.address.isRoot
  · refine ⟨before ++ documentMark, documentEnd, pageEnd, fun content headings => ?_⟩
    have outline : { page with content, headings }.outlineText = [] := outlineText_of_isRoot isRoot
    rw [parts, outline, outlineItems, if_pos isRoot]
    simp only [List.append_assoc]
  · refine ⟨before ++ documentMark, documentEnd ++ outlineMark, outlineEnd ++ pageEnd,
      fun content headings => ?_⟩
    have outline : { page with content, headings }.outlineText = _ :=
      outlineText_of_not_isRoot isRoot
    rw [parts, outline, outlineItems, if_neg isRoot]
    simp only [List.append_assoc]

end Page

/-! ## Pages of a viewer -/

namespace Viewer

/-- Whatever is answered for the table of contents, a page of either kind differs only in the
sidebar; whatever is answered for the document, it differs only in the document and in the items of
the outline. The placeholder, a line without markup, has to be read as a paragraph. -/
theorem failures_stay_local (viewer : Viewer)
    (paragraph : viewer.tools.read Content.placeholder =
      enclose .paragraph [.text Content.placeholder])
    (stylesheet : Stylesheet) (address : Address) :
    let html := fun source : Source => ((viewer.pageWith stylesheet address).result source).html
    let url := viewer.location.url address
    (∀ answer, ∃ before after, ∀ source : Source, source url = answer →
      ∃ sidebar, Sidebar.ShownFor (source viewer.sidebarUrl) sidebar ∧
        html source = before ++ Piece.writeAll (Page.sidebarPieces sidebar) ++ after) ∧
    ∀ answer, ∃ before between after, ∀ source : Source, source viewer.sidebarUrl = answer →
      ∃ content headings, Rendition.ShownFor viewer.tools (source url) content headings ∧
        html source =
          before ++ content ++ between ++ Page.outlineItems address headings ++ after := by
  intro html url
  have page_eq (source : Source) := viewer.pageWith_result source address stylesheet
  constructor
  · -- All that the sources have in common is on a page without links.
    intro answer
    let rendition := Rendition.of viewer.renderer (.ofFetched answer)
    obtain ⟨before, after, around⟩ := Page.html_sidebar
      { address, content := rendition.html, headings := rendition.headings, sidebar := .empty,
        stylesheet, fontsUrl := viewer.theme.fontsUrl }
    refine ⟨before, after, fun source same => ⟨_, Sidebar.shownFor_iff.mpr rfl, ?_⟩⟩
    have rendered : viewer.renditionFrom source address = rendition := by
      rw [renditionFrom, same]
    rw [← around]
    simp only [html, page_eq, rendered]
    rfl
  · intro answer
    obtain ⟨before, between, after, around⟩ := Page.html_places
      { address, content := [], headings := [], stylesheet, fontsUrl := viewer.theme.fontsUrl,
        sidebar := Sidebar.orEmpty (Sidebar.ofFetched answer) }
    refine ⟨before, between, after, fun source same =>
      ⟨_, _, (Rendition.shownFor_iff paragraph).mpr ⟨rfl, rfl⟩, ?_⟩⟩
    rw [← around]
    simp only [html, page_eq, ← same]
    rfl

theorem failures_stay_local_three_answers :
    let viewer := Viewer.default
    let address : Address := ⟨["sql".toList], by simp, by simp⟩
    let html := fun document sidebar : Fetched =>
      ((viewer.page address).result fun url =>
        if url = viewer.sidebarUrl then sidebar else document).html
    let document : Fetched := .ok "text"
    let sidebar : Fetched := .ok "\x7b\"a\": \x7b\"title\": \"A\", \"file\": \"a\"\x7d\x7d"
    let gone : Fetched := .error (.transport "https://docs.test")
    (∃ before after,
      html document sidebar = before ++ Piece.writeAll (Page.sidebarPieces
          (.link ⟨"a", "A", "a", none⟩ .empty .empty)) ++ after ∧
        html document (.ok "\x7b") =
          before ++ Piece.writeAll (Page.sidebarPieces .empty) ++ after ∧
        html document gone = before ++ Piece.writeAll (Page.sidebarPieces .empty) ++ after) ∧
      ∃ before between after,
        html document sidebar = before ++ "<p>text</p>".toList ++ between ++ after ∧
          html gone sidebar = before ++ "<p>Error loading content.</p>".toList ++ between ++ after := by
  intro viewer address html document sidebar gone
  let source := fun document sidebar : Fetched => fun url : Text =>
    if url = viewer.sidebarUrl then sidebar else document
  have paragraph : viewer.tools.read Content.placeholder =
      enclose .paragraph [.text Content.placeholder] := by decide +kernel
  have isolated := failures_stay_local viewer paragraph (.link stylesheetRoute) address
  have fromDocument (document sidebar : Fetched) :
      source document sidebar (viewer.location.url address) = document := if_neg (by decide)
  have fromSidebar (document sidebar : Fetched) :
      source document sidebar viewer.sidebarUrl = sidebar := if_pos rfl
  constructor
  · obtain ⟨before, after, pages⟩ := isolated.1 document
    have shows (answer : Fetched) (shown : Sidebar)
        (read : shown = Sidebar.orEmpty (Sidebar.ofFetched answer)) :
        html document answer =
          before ++ Piece.writeAll (Page.sidebarPieces shown) ++ after := by
      obtain ⟨other, otherShown, page⟩ := pages (source document answer) (fromDocument _ _)
      rw [fromSidebar, Sidebar.shownFor_iff, ← read] at otherShown
      rw [← otherShown]
      exact page
    exact ⟨before, after, shows _ _ (by decide +kernel), shows _ _ (by decide +kernel), shows _ _ rfl⟩
  · obtain ⟨before, between, after, pages⟩ := isolated.2 sidebar
    have shows (answer : Fetched) (shown : Text)
        (shownFor : Rendition.ShownFor viewer.tools answer shown []) :
        html answer sidebar = before ++ shown ++ between ++ after := by
      obtain ⟨content, headings, contentShown, page⟩ :=
        pages (source answer sidebar) (fromSidebar _ _)
      rw [fromDocument, Rendition.shownFor_iff paragraph] at contentShown
      rw [Rendition.shownFor_iff paragraph, ← contentShown.1, ← contentShown.2] at shownFor
      obtain ⟨rfl, rfl⟩ := shownFor
      exact page.trans (by simp [Page.outlineItems, Piece.writeAll])
    have text : Rendition.ShownFor viewer.tools document "<p>text</p>" [] :=
      (Rendition.shownFor_iff paragraph).mpr (by decide +kernel)
    exact ⟨before, between, after, shows _ _ text, shows _ _ (.unreachable _)⟩

end Viewer

end DocSite
