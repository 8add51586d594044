import DocSite.Proofs.Html.Parts
import DocSite.Site.Page

/-!
# The form of a page

The shape of a page is what it is without the texts that are escaped on it. A page is written in
parts with places for these texts, and pages of the same shape are written in parts of the same
forms.
-/

namespace DocSite

open Html

/-! ## Shapes -/

/-- A table of contents without its texts. -/
inductive SidebarShape
  /-- No links. -/
  | empty
  /-- A link, whether it has a description, the links below it and those that follow it. -/
  | link (isDescribed : Bool) (subsections rest : SidebarShape)
  deriving DecidableEq, Repr

/-- The shape of a table of contents. -/
def Sidebar.shape : Sidebar → SidebarShape
  | empty => .empty
  | link first subsections rest => .link first.description.isSome subsections.shape rest.shape

/-- The rules of a stylesheet that is part of the page. -/
def Stylesheet.rules? : Stylesheet → Option Text
  | link _ => none
  | inline rules => some rules

/-- The URL of a stylesheet that a page refers to. -/
def Stylesheet.url? : Stylesheet → Option Text
  | link url => some url
  | inline _ => none

/-- A page without the texts that are escaped on it. -/
structure PageShape where
  /-- Whether the page is at the root. -/
  isRoot : Bool
  /-- How many headings the document has. -/
  headings : Nat
  /-- The shape of the table of contents. -/
  sidebar : SidebarShape
  /-- The rules of the stylesheet, if it is part of the page. -/
  rules : Option Text
  /-- The document as markup. -/
  content : Text
  deriving DecidableEq, Repr

/-- The shape of a page. -/
def Page.shape (page : Page) : PageShape where
  isRoot := page.address.isRoot
  headings := page.headings.length
  sidebar := page.sidebar.shape
  rules := page.stylesheet.rules?
  content := page.content

/-! ## Texts -/

/-- The texts on a page that a table of contents brings there. -/
def Sidebar.texts : Sidebar → List Text
  | empty => []
  | link first subsections rest =>
    first.href :: first.title :: first.description.toList ++ subsections.texts ++ rest.texts

/-- The texts on a page that a heading brings there; the level is one lower. -/
def Document.Heading.texts (heading : Heading) : List Text :=
  [Text.ofNat (heading.level - 1), heading.id, heading.text]

namespace Page

/-- The texts that are escaped on a page, in the order in which they stand there. -/
def texts (page : Page) : List Text :=
  page.address.segments.getLast?.toList ++ page.fontsUrl :: page.stylesheet.url?.toList ++
    page.sidebar.texts ++
    (if page.address.isRoot then [] else page.headings.flatMap Document.Heading.texts)

/-! ## Parts -/

/-- Pieces without places. -/
def fixedParts (pieces : List Piece) : List Part :=
  pieces.map .fixed

/-- A page up to its title. -/
def beforeTitle : List Piece :=
  [.markup "<!DOCTYPE html>", newLine, start "html" [("lang", "en")], newLine, start "head" [],
    newLine, start "meta" [("charset", "utf-8")], newLine,
    start "meta" [("name", "viewport"), ("content", "width=device-width, initial-scale=1")],
    newLine]

/-- The title, with a place for the last segment. -/
def titleParts (address : Address) : List Part :=
  match address.segments.getLast? with
  | some segment =>
    [.fixed (start "title" []),
      .shown "title" (" | ".toList ++ siteName ++ " docs".toList) segment]
  | none => fixedParts (element "title" [] (siteName ++ " docs".toList))

/-- A reference to a stylesheet, with a place for its URL. -/
def stylesheetPart (url : Text) : Part :=
  .tag "link" [.of "rel" "stylesheet"] "href" [] url

/-- A stylesheet, with a place for its URL if it has one. -/
def stylesheetParts : Stylesheet → List Part
  | .link url => [stylesheetPart url, .fixed newLine]
  | .inline rules => fixedParts (stylesheetPieces (.inline rules))

/-- A link, with places for its route, its title and its description. -/
def linkParts (link : SidebarLink) : List Part :=
  [.tag "a" [] "href" [] link.href, .shown "a" [] link.title] ++
    (match link.description with
      | some description =>
        [.fixed (start "div" [("class", "sidebar-description")]), .shown "div" [] description]
      | none => [])

/-- A list with a line for either tag. -/
def partsOfList (items : List Part) : List Part :=
  fixedParts [start "ul" [], newLine] ++ items ++ fixedParts [finish "ul", newLine]

/-- The items for a list of links. -/
def sidebarItemParts : Sidebar → List Part
  | .empty => []
  | .link first subsections rest =>
    .fixed (start "li" []) :: linkParts first ++
      (if subsections.isEmpty then []
        else .fixed newLine :: partsOfList (sidebarItemParts subsections)) ++
      fixedParts [finish "li", newLine] ++ sidebarItemParts rest

/-- The table of contents. -/
def sidebarParts (sidebar : Sidebar) : List Part :=
  fixedParts ([start "aside" [("class", "sidebar")], newLine] ++ element "h2" [] "Documentation" ++
    [newLine]) ++
    (if sidebar.isEmpty then [] else partsOfList (sidebarItemParts sidebar)) ++
    fixedParts [finish "aside", newLine]

/-- The item for a heading, with places for its level, its slug and its text. -/
def outlineItemParts (heading : Document.Heading) : List Part :=
  [.tag "li" [] "class" "level-" (Text.ofNat (heading.level - 1)),
    .tag "a" [] "href" ['#'] heading.id, .shown "a" [] heading.text, .fixed (finish "li"),
    .fixed newLine]

/-- The outline behind its first tag. -/
def outlineParts (headings : List Document.Heading) : List Part :=
  fixedParts (newLine :: element "p" [] "On this document" ++ [newLine]) ++
    partsOfList (headings.flatMap outlineItemParts) ++ fixedParts [finish "aside", newLine]

/-- A page up to the reference to the fonts. -/
def topParts (page : Page) : List Part :=
  fixedParts beforeTitle ++ titleParts page.address ++
    [.fixed newLine, stylesheetPart page.fontsUrl]

/-- The stylesheet, and up to the first tag of the bar at the top. -/
def barParts (stylesheet : Stylesheet) : List Part :=
  [.fixed newLine] ++ stylesheetParts stylesheet ++
    fixedParts [finish "head", newLine, start "body" [], newLine,
      start "header" [("class", "navbar")]]

/-- The bar behind its first tag, the table of contents, and up to the document. -/
def middleParts (sidebar : Sidebar) : List Part :=
  fixedParts (navigation.tail ++ [start "div" [("class", "doc-wrapper")], newLine]) ++
    sidebarParts sidebar ++
    fixedParts [start "div" [("class", "content-wrapper")], newLine,
      start "div" [("class", "markdown-content")]]

/-- The document, on lines of its own. -/
def contentParts (content : Text) : List Part :=
  fixedParts [newLine, .markup content, newLine, finish "div", newLine]

/-- Behind the document. -/
def endParts (page : Page) : List Part :=
  fixedParts [finish "div", newLine] ++
    (if page.address.isRoot then []
      else .fixed (start "aside" [("class", "toc")]) :: outlineParts page.headings) ++
    fixedParts [finish "div", newLine, finish "body", newLine, finish "html", newLine]

/-- The parts of a page. -/
def parts (page : Page) : List Part :=
  page.topParts ++ barParts page.stylesheet ++ middleParts page.sidebar ++
    contentParts page.content ++ page.endParts

/-! ## Parts are pieces -/

theorem flatMap_fixedParts (pieces : List Piece) :
    (fixedParts pieces).flatMap Part.pieces = pieces :=
  Part.flatMap_pieces_fixed pieces

theorem flatMap_titleParts (address : Address) :
    (titleParts address).flatMap Part.pieces = element "title" [] (title address) := by
  rw [titleParts, title]
  cases address.segments.getLast? with
  | none => exact flatMap_fixedParts _
  | some segment =>
      simp only [List.flatMap_cons, List.flatMap_nil, Part.pieces, element, List.append_assoc]
      rfl

theorem flatMap_stylesheetParts (stylesheet : Stylesheet) :
    (stylesheetParts stylesheet).flatMap Part.pieces = stylesheetPieces stylesheet := by
  cases stylesheet with
  | link url => rfl
  | inline rules => exact flatMap_fixedParts _

theorem flatMap_linkParts (link : SidebarLink) :
    (linkParts link).flatMap Part.pieces = linkPieces link := by
  rw [linkParts, linkPieces, List.flatMap_append]
  cases link.description <;>
    simp [Part.pieces, element, start, finish, Attribute.of]

theorem flatMap_partsOfList {items : List Part} {pieces : List Piece}
    (same : items.flatMap Part.pieces = pieces) :
    (partsOfList items).flatMap Part.pieces = listOf pieces := by
  rw [partsOfList, List.flatMap_append, List.flatMap_append, same, flatMap_fixedParts,
    flatMap_fixedParts, listOf]

theorem flatMap_sidebarItemParts (sidebar : Sidebar) :
    (sidebarItemParts sidebar).flatMap Part.pieces = sidebarItems sidebar := by
  induction sidebar with
  | empty => rfl
  | link first subsections rest below behind =>
      rw [sidebarItemParts, sidebarItems]
      simp only [List.flatMap_append, List.flatMap_cons, flatMap_linkParts, flatMap_fixedParts,
        behind]
      cases subsections.isEmpty with
      | true => rfl
      | false =>
          have nested := flatMap_partsOfList below
          simp only [Bool.false_eq_true, if_false, List.flatMap_cons, nested]
          rfl

theorem flatMap_sidebarParts (sidebar : Sidebar) :
    (sidebarParts sidebar).flatMap Part.pieces = sidebarPieces sidebar := by
  rw [sidebarParts, sidebarPieces]
  simp only [List.flatMap_append, flatMap_fixedParts]
  cases sidebar.isEmpty with
  | true => rfl
  | false =>
      have items := flatMap_partsOfList (flatMap_sidebarItemParts sidebar)
      simp only [Bool.false_eq_true, if_false, items]

theorem flatMap_outlineItemParts (headings : List Document.Heading) :
    (headings.flatMap outlineItemParts).flatMap Part.pieces = headings.flatMap outlineItem := by
  have item (heading : Document.Heading) :
      (outlineItemParts heading).flatMap Part.pieces = outlineItem heading := by
    simp [outlineItemParts, Part.pieces, outlineItem, element, start, finish]
  simp only [List.flatMap_assoc, item]

theorem flatMap_outlineParts (headings : List Document.Heading) :
    start "aside" [("class", "toc")] :: (outlineParts headings).flatMap Part.pieces =
      outlinePieces headings := by
  have items := flatMap_partsOfList (flatMap_outlineItemParts headings)
  simp [outlineParts, outlinePieces, flatMap_fixedParts, items]

theorem flatMap_parts (page : Page) : page.parts.flatMap Part.pieces = page.pieces := by
  have bar : navigation = start "header" [("class", "navbar")] :: navigation.tail := rfl
  have outline : (if page.address.isRoot then []
        else Part.fixed (start "aside" [("class", "toc")]) :: outlineParts page.headings).flatMap
      Part.pieces = if page.address.isRoot then [] else outlinePieces page.headings := by
    split
    · rfl
    · exact flatMap_outlineParts page.headings
  rw [pieces, head, body, bar]
  simp only [parts, topParts, barParts, middleParts, contentParts, endParts, flatMap_fixedParts,
    flatMap_titleParts, flatMap_stylesheetParts, flatMap_sidebarParts, outline, beforeTitle,
    stylesheetLink, contentPieces, List.flatMap_append, List.flatMap_cons,
    List.append_assoc, List.cons_append, List.nil_append]
  rfl

theorem html_eq_writeAll_parts (page : Page) : page.html = Part.writeAll page.parts := by
  rw [html, Part.writeAll, flatMap_parts]

/-! ## Texts in the parts -/

theorem filterMap_fixedParts (pieces : List Piece) :
    (fixedParts pieces).filterMap Part.content? = [] :=
  Part.filterMap_content?_fixed pieces

theorem filterMap_titleParts (address : Address) :
    (titleParts address).filterMap Part.content? = address.segments.getLast?.toList := by
  rw [titleParts]
  cases address.segments.getLast? with
  | none => exact filterMap_fixedParts _
  | some segment => rfl

theorem filterMap_stylesheetParts (stylesheet : Stylesheet) :
    (stylesheetParts stylesheet).filterMap Part.content? = stylesheet.url?.toList := by
  cases stylesheet with
  | link url => rfl
  | inline rules => exact filterMap_fixedParts _

theorem filterMap_linkParts (link : SidebarLink) :
    (linkParts link).filterMap Part.content? =
      link.href :: link.title :: link.description.toList := by
  rw [linkParts]
  cases link.description <;> rfl

theorem filterMap_partsOfList (items : List Part) :
    (partsOfList items).filterMap Part.content? = items.filterMap Part.content? := by
  simp [partsOfList, filterMap_fixedParts]

theorem filterMap_sidebarItemParts (sidebar : Sidebar) :
    (sidebarItemParts sidebar).filterMap Part.content? = sidebar.texts := by
  induction sidebar with
  | empty => rfl
  | link first subsections rest below behind =>
      have nested : (if subsections.isEmpty then []
          else Part.fixed newLine :: partsOfList (sidebarItemParts subsections)).filterMap
            Part.content? = subsections.texts := by
        cases subsections with
        | empty => rfl
        | link => exact (filterMap_partsOfList _).trans below
      rw [sidebarItemParts, Sidebar.texts, ← List.singleton_append]
      simp only [List.filterMap_append, filterMap_linkParts, filterMap_fixedParts, nested, behind,
        List.append_nil]
      rfl

theorem filterMap_sidebarParts (sidebar : Sidebar) :
    (sidebarParts sidebar).filterMap Part.content? = sidebar.texts := by
  rw [sidebarParts, List.filterMap_append, List.filterMap_append, filterMap_fixedParts,
    filterMap_fixedParts, List.append_nil, List.nil_append]
  cases sidebar with
  | empty => rfl
  | link => exact (filterMap_partsOfList _).trans (filterMap_sidebarItemParts _)

theorem filterMap_outlineParts (headings : List Document.Heading) :
    (outlineParts headings).filterMap Part.content? =
      headings.flatMap Document.Heading.texts := by
  have item (heading : Document.Heading) :
      (outlineItemParts heading).filterMap Part.content? = heading.texts := rfl
  simp only [outlineParts, List.filterMap_append, filterMap_fixedParts, filterMap_partsOfList,
    List.filterMap_flatMap, item, List.append_nil, List.nil_append]

theorem filterMap_parts (page : Page) : page.parts.filterMap Part.content? = page.texts := by
  have outline : (if page.address.isRoot then []
        else Part.fixed (start "aside" [("class", "toc")]) :: outlineParts page.headings).filterMap
      Part.content? =
        if page.address.isRoot then [] else page.headings.flatMap Document.Heading.texts := by
    split
    · rfl
    · exact filterMap_outlineParts page.headings
  have top : page.topParts.filterMap Part.content? =
      page.address.segments.getLast?.toList ++ [page.fontsUrl] := by
    rw [topParts, List.filterMap_append, List.filterMap_append, filterMap_fixedParts,
      filterMap_titleParts]
    rfl
  have bar : (barParts page.stylesheet).filterMap Part.content? =
      page.stylesheet.url?.toList := by
    rw [barParts, List.filterMap_append, filterMap_fixedParts, List.append_nil]
    exact filterMap_stylesheetParts page.stylesheet
  simp only [parts, top, bar, middleParts, contentParts, endParts, List.filterMap_append,
    filterMap_fixedParts, filterMap_sidebarParts, outline, texts, List.append_nil,
    List.nil_append, List.append_assoc, List.cons_append]

/-! ## Forms of the parts -/

theorem map_form_titleParts {address other : Address} (same : address.isRoot = other.isRoot) :
    (titleParts address).map Part.form = (titleParts other).map Part.form := by
  have isSome (address : Address) : address.segments.getLast?.isSome = !address.isRoot := by
    rw [Address.isRoot]
    cases address.segments <;> simp
  have last : address.segments.getLast?.isSome = other.segments.getLast?.isSome := by
    rw [isSome, isSome, same]
  rw [titleParts, titleParts]
  revert last
  cases address.segments.getLast? <;> cases other.segments.getLast? <;>
    first | exact fun _ => rfl | exact nofun

theorem map_form_linkParts {link other : SidebarLink}
    (same : link.description.isSome = other.description.isSome) :
    (linkParts link).map Part.form = (linkParts other).map Part.form := by
  rw [linkParts, linkParts]
  revert same
  cases link.description <;> cases other.description <;>
    first | exact fun _ => rfl | exact nofun

theorem map_form_partsOfList {items others : List Part}
    (same : items.map Part.form = others.map Part.form) :
    (partsOfList items).map Part.form = (partsOfList others).map Part.form := by
  simp [partsOfList, same]

theorem isEmpty_eq_of_shape_eq {sidebar other : Sidebar} (same : sidebar.shape = other.shape) :
    sidebar.isEmpty = other.isEmpty := by
  cases sidebar <;> cases other <;> first | rfl | nomatch same

theorem map_form_sidebarItemParts {sidebar other : Sidebar}
    (same : sidebar.shape = other.shape) :
    (sidebarItemParts sidebar).map Part.form = (sidebarItemParts other).map Part.form := by
  induction sidebar generalizing other with
  | empty =>
      cases other with
      | empty => rfl
      | link => nomatch same
  | link first subsections rest below behind =>
      cases other with
      | empty => nomatch same
      | link otherFirst otherSubsections otherRest =>
          obtain ⟨described, nested, rest⟩ := SidebarShape.link.inj same
          have items := map_form_partsOfList (below nested)
          rw [sidebarItemParts, sidebarItemParts, isEmpty_eq_of_shape_eq nested]
          simp only [List.map_append, List.map_cons, map_form_linkParts described, behind rest]
          congr 3
          split
          · rfl
          · rw [List.map_cons, items, List.map_cons]

theorem map_form_sidebarParts {sidebar other : Sidebar} (same : sidebar.shape = other.shape) :
    (sidebarParts sidebar).map Part.form = (sidebarParts other).map Part.form := by
  have items := map_form_partsOfList (map_form_sidebarItemParts same)
  rw [sidebarParts, sidebarParts, isEmpty_eq_of_shape_eq same]
  simp only [List.map_append]
  congr 2
  split
  · rfl
  · exact items

theorem map_form_middleParts {sidebar other : Sidebar} (same : sidebar.shape = other.shape) :
    (middleParts sidebar).map Part.form = (middleParts other).map Part.form := by
  simp only [middleParts, List.map_append, map_form_sidebarParts same]

theorem map_form_outlineParts {headings others : List Document.Heading}
    (same : headings.length = others.length) :
    (outlineParts headings).map Part.form = (outlineParts others).map Part.form := by
  have items : (headings.flatMap outlineItemParts).map Part.form =
      (others.flatMap outlineItemParts).map Part.form := by
    induction headings generalizing others with
    | nil =>
        obtain rfl : others = [] := List.eq_nil_of_length_eq_zero same.symm
        rfl
    | cons heading headings induction =>
        cases others with
        | nil => nomatch same
        | cons other others =>
            rw [List.flatMap_cons, List.flatMap_cons, List.map_append, List.map_append,
              induction (Nat.succ.inj same)]
            rfl
  simp only [outlineParts, List.map_append, map_form_partsOfList items]

theorem map_form_stylesheetParts {stylesheet other : Stylesheet}
    (same : stylesheet.rules? = other.rules?) :
    (stylesheetParts stylesheet).map Part.form = (stylesheetParts other).map Part.form := by
  cases stylesheet with
  | link url =>
      cases other with
      | link otherUrl => rfl
      | inline rules => nomatch same
  | inline rules =>
      cases other with
      | link url => nomatch same
      | inline otherRules => rw [Option.some.inj same]

/-- The parts of pages of the same shape have the same forms. -/
theorem map_form_parts {page other : Page} (same : page.shape = other.shape) :
    page.parts.map Part.form = other.parts.map Part.form := by
  obtain ⟨isRoot, headings, sidebar, rules, content⟩ := PageShape.mk.inj same
  have outline : (if page.address.isRoot then []
        else Part.fixed (start "aside" [("class", "toc")]) :: outlineParts page.headings).map
      Part.form = (if other.address.isRoot then []
        else Part.fixed (start "aside" [("class", "toc")]) :: outlineParts other.headings).map
      Part.form := by
    rw [isRoot]
    split
    · rfl
    · rw [List.map_cons, List.map_cons, map_form_outlineParts headings]
  have fonts : [Part.fixed newLine, stylesheetPart page.fontsUrl].map Part.form =
      [Part.fixed newLine, stylesheetPart other.fontsUrl].map Part.form := rfl
  simp only [parts, topParts, barParts, endParts, List.map_append, map_form_titleParts isRoot,
    fonts, map_form_stylesheetParts rules, map_form_middleParts sidebar, content, outline]

end Page

end DocSite
