import DocSite.Proofs.Site.PageForm

/-!
# The structure of a page

Two readers of markup on pages of the same shape stay near each other. A stylesheet or a document
that is taken over as it is written may leave them anywhere, but in the same place, and the tags
behind it settle them. So the texts on a page have no influence on the tags that are found there,
and each text is read back from its place.
-/

namespace DocSite.Page

open Html

/-! ## Plain parts -/

theorem isPlain_fixedParts {pieces : List Piece} (plain : ∀ piece ∈ pieces, piece.IsPlain) :
    ∀ part ∈ fixedParts pieces, part.IsPlain := by
  simpa [fixedParts, Part.IsPlain] using plain

theorem isPlain_stylesheetPart (url : Text) : (stylesheetPart url).IsPlain :=
  (by decide :
    (Piece.startTag "link" [.of "rel" "stylesheet"]).IsPlain ∧ IsPlainName "href")

theorem isPlain_linkParts (link : SidebarLink) : ∀ part ∈ linkParts link, part.IsPlain := by
  have anchor : (Piece.startTag "a" []).IsPlain ∧ IsPlainName "href" := by decide
  have shown : (Piece.endTag "a").IsPlain := by decide
  have description : (start "div" [("class", "sidebar-description")]).IsPlain ∧
      (Piece.endTag "div").IsPlain := by decide
  rw [linkParts]
  refine List.forall_mem_append.mpr ⟨?_, ?_⟩
  · exact List.forall_mem_cons.mpr ⟨anchor, List.forall_mem_singleton.mpr shown⟩
  · cases link.description with
    | none => exact List.forall_mem_nil _
    | some text =>
        exact List.forall_mem_cons.mpr
          ⟨description.1, List.forall_mem_singleton.mpr description.2⟩

theorem isPlain_partsOfList {items : List Part} (plain : ∀ part ∈ items, part.IsPlain) :
    ∀ part ∈ partsOfList items, part.IsPlain :=
  List.forall_mem_append.mpr
    ⟨List.forall_mem_append.mpr ⟨isPlain_fixedParts (by decide), plain⟩,
      isPlain_fixedParts (by decide)⟩

theorem isPlain_sidebarItemParts (sidebar : Sidebar) :
    ∀ part ∈ sidebarItemParts sidebar, part.IsPlain := by
  induction sidebar with
  | empty => exact List.forall_mem_nil _
  | link first subsections rest below behind =>
      have item : (start "li" []).IsPlain ∧ newLine.IsPlain := by decide
      have nested : ∀ part ∈ (if subsections.isEmpty then []
          else Part.fixed newLine :: partsOfList (sidebarItemParts subsections)),
            part.IsPlain := by
        split
        · exact List.forall_mem_nil _
        · exact List.forall_mem_cons.mpr ⟨item.2, isPlain_partsOfList below⟩
      have ending : ∀ part ∈ fixedParts [finish "li", newLine], part.IsPlain :=
        isPlain_fixedParts (by decide)
      simp only [sidebarItemParts, List.forall_mem_append, List.forall_mem_cons]
      exact ⟨⟨⟨⟨item.1, isPlain_linkParts first⟩, nested⟩, ending⟩, behind⟩

theorem isPlain_sidebarParts (sidebar : Sidebar) :
    ∀ part ∈ sidebarParts sidebar, part.IsPlain := by
  refine List.forall_mem_append.mpr ⟨List.forall_mem_append.mpr ⟨?_, ?_⟩, ?_⟩
  · exact isPlain_fixedParts (by decide)
  · split
    · exact List.forall_mem_nil _
    · exact isPlain_partsOfList (isPlain_sidebarItemParts sidebar)
  · exact isPlain_fixedParts (by decide)

theorem isPlain_outlineParts (headings : List Document.Heading) :
    ∀ part ∈ outlineParts headings, part.IsPlain := by
  have item (heading : Document.Heading) :
      ∀ part ∈ outlineItemParts heading, part.IsPlain := by
    have level : (Piece.startTag "li" []).IsPlain ∧ IsPlainName "class" := by decide
    have anchor : (Piece.startTag "a" []).IsPlain ∧ IsPlainName "href" := by decide
    have ending : (Piece.endTag "a").IsPlain ∧ (finish "li").IsPlain ∧ newLine.IsPlain := by
      decide
    simp only [outlineItemParts, List.forall_mem_cons]
    exact ⟨level, anchor, ending.1, ending.2.1, ending.2.2, List.forall_mem_nil _⟩
  have items : ∀ part ∈ headings.flatMap outlineItemParts, part.IsPlain := by
    intro part member
    obtain ⟨heading, -, inside⟩ := List.mem_flatMap.mp member
    exact item heading part inside
  exact List.forall_mem_append.mpr ⟨List.forall_mem_append.mpr
    ⟨isPlain_fixedParts (by decide), isPlain_partsOfList items⟩, isPlain_fixedParts (by decide)⟩

/-! ## Reading a page -/

/-- Readers that begin at the start of two pages are near each other up to the fonts. -/
theorem near_topParts (page other : Page) :
    Scan.Near (Scan.readAll {} (Part.writeAll page.topParts))
      (Scan.readAll {} (Part.writeAll other.topParts)) := by
  obtain ⟨found, begun⟩ : ∃ found, Scan.readAll {} (Part.writeAll (fixedParts beforeTitle)) =
      ⟨found, .text⟩ := by
    have declaration : Scan.readAll {} (Piece.markup "<!DOCTYPE html>").write = ⟨[], .text⟩ := by
      decide
    have plain : ∀ piece ∈ beforeTitle.tail, piece.IsPlain := by decide
    have written : Piece.writeAll beforeTitle =
        (Piece.markup "<!DOCTYPE html>").write ++ Piece.writeAll beforeTitle.tail := rfl
    rw [Part.writeAll, flatMap_fixedParts, written, Scan.readAll_append, declaration,
      Scan.readAll_writeAll plain]
    exact ⟨_, rfl⟩
  have titled (address : Address) :
      Scan.readAll ⟨found, .text⟩ (Part.writeAll (titleParts address)) =
        ⟨found ++ [⟨false, "title", []⟩, ⟨true, "title", []⟩], .text⟩ := by
    rw [Part.writeAll, flatMap_titleParts]
    exact Scan.readAll_title found _
  have fonts (page : Page) :
      ∀ part ∈ [Part.fixed newLine, stylesheetPart page.fontsUrl], part.IsPlain :=
    List.forall_mem_cons.mpr
      ⟨trivial, List.forall_mem_singleton.mpr (isPlain_stylesheetPart page.fontsUrl)⟩
  simp only [topParts, Part.writeAll_append, Scan.readAll_append, begun, titled]
  exact (Scan.Near.text _).writeParts rfl (fonts page)

/-- The tags before and at the start of the bar at the top. -/
def barTags : List Piece :=
  [start "body" [], newLine, start "header" [("class", "navbar")]]

theorem writeAll_barParts_inline (rules : Text) :
    Part.writeAll (barParts (.inline rules)) =
      '\n' :: (Piece.writeAll (stylesheetPieces (.inline rules) ++ [finish "head", newLine]) ++
        Piece.writeAll barTags) := by
  have parts : barParts (.inline rules) = fixedParts
      (newLine :: ((stylesheetPieces (.inline rules) ++ [finish "head", newLine]) ++ barTags)) :=
    rfl
  rw [Part.writeAll, parts, flatMap_fixedParts, Piece.writeAll, List.flatMap_cons,
    List.flatMap_append]
  rfl

/-- Readers that are near each other are so at the bar, behind stylesheets of the same kind. -/
theorem near_barParts {scan scanOther : Scan} (near : scan.Near scanOther)
    {stylesheet other : Stylesheet} (same : stylesheet.rules? = other.rules?) :
    (scan.readAll (Part.writeAll (barParts stylesheet))).Near
      (scanOther.readAll (Part.writeAll (barParts other))) := by
  cases stylesheet with
  | link url =>
      cases other with
      | link otherUrl =>
          refine near.writeParts rfl ?_
          refine List.forall_mem_append.mpr ⟨?_, isPlain_fixedParts (by decide)⟩
          exact List.forall_mem_cons.mpr ⟨trivial, List.forall_mem_cons.mpr
            ⟨isPlain_stylesheetPart url, List.forall_mem_singleton.mpr trivial⟩⟩
      | inline rules => nomatch same
  | inline rules =>
      cases other with
      | link url => nomatch same
      | inline otherRules =>
          -- The rules may leave both readers anywhere, but in the same place.
          obtain rfl := Option.some.inj same
          rw [writeAll_barParts_inline, Scan.readAll_cons, Scan.readAll_cons, near.newLine,
            Scan.readAll_append]
          exact Scan.near_behind_tags (by decide) (by decide) (by decide) (by decide) _ rfl

theorem isPlain_middleParts (sidebar : Sidebar) : ∀ part ∈ middleParts sidebar, part.IsPlain :=
  List.forall_mem_append.mpr ⟨List.forall_mem_append.mpr
    ⟨isPlain_fixedParts (by decide), isPlain_sidebarParts sidebar⟩, isPlain_fixedParts (by decide)⟩

/-- The document leaves two readers that have been near each other in the same place. -/
theorem readAll_contentParts {scan other : Scan} (near : scan.Near other) (content : Text) :
    scan.readAll (Part.writeAll (contentParts content)) =
      other.readAll (Part.writeAll (contentParts content)) := by
  have written : Part.writeAll (contentParts content) =
      '\n' :: Piece.writeAll [.markup content, newLine, finish "div", newLine] := rfl
  rw [written, Scan.readAll_cons, Scan.readAll_cons, near.newLine]

/-- The tags before and at the start of the outline. -/
def outlineTags : List Piece :=
  [finish "div", newLine, start "aside" [("class", "toc")]]

/-- The outline behind its first tag, and the end of a page. -/
def outlineEndParts (headings : List Document.Heading) : List Part :=
  outlineParts headings ++
    fixedParts [finish "div", newLine, finish "body", newLine, finish "html", newLine]

theorem writeAll_endParts {page : Page} (inside : ¬page.address.isRoot) :
    Part.writeAll page.endParts =
      Piece.writeAll outlineTags ++ Part.writeAll (outlineEndParts page.headings) := by
  have parts : page.endParts = fixedParts outlineTags ++ outlineEndParts page.headings := by
    rw [endParts, if_neg inside]
    rfl
  rw [parts, Part.writeAll_append, Part.writeAll, flatMap_fixedParts]

/-- Behind a document, the same is found on pages of the same shape. -/
theorem found_endParts (scan : Scan) {page other : Page} (same : page.shape = other.shape) :
    (scan.readAll (Part.writeAll page.endParts)).found =
      (scan.readAll (Part.writeAll other.endParts)).found := by
  obtain ⟨isRoot, headings, -⟩ := PageShape.mk.inj same
  by_cases root : other.address.isRoot
  · rw [endParts, endParts, isRoot, if_pos root, if_pos root]
  · -- The document may leave a reader anywhere, but the first tag of the outline settles it.
    have near : Scan.Near (scan.readAll (Piece.writeAll outlineTags))
        (scan.readAll (Piece.writeAll outlineTags)) :=
      Scan.near_behind_tags (by decide) (by decide) (by decide) (by decide) scan rfl
    have forms : (outlineEndParts page.headings).map Part.form =
        (outlineEndParts other.headings).map Part.form := by
      rw [outlineEndParts, outlineEndParts, List.map_append, List.map_append,
        map_form_outlineParts headings]
    have plain : ∀ part ∈ outlineEndParts page.headings, part.IsPlain :=
      List.forall_mem_append.mpr
        ⟨isPlain_outlineParts page.headings, isPlain_fixedParts (by decide)⟩
    rw [writeAll_endParts root, writeAll_endParts (isRoot ▸ root), Scan.readAll_append,
      Scan.readAll_append]
    exact (near.writeParts forms plain).found_eq

theorem skeleton_html {page other : Page} (same : page.shape = other.shape) :
    skeleton page.html = skeleton other.html := by
  obtain ⟨-, -, sidebar, rules, content⟩ := PageShape.mk.inj same
  have near := (near_barParts (near_topParts page other) rules).writeParts
    (map_form_middleParts sidebar) (isPlain_middleParts page.sidebar)
  simp only [skeleton, html_eq_writeAll_parts, parts, Part.writeAll_append, Scan.readAll_append]
  rw [content, readAll_contentParts near]
  exact found_endParts _ same

/-- The texts on a page have no influence on its tags, and each of them is read back from its place,
which is found by the shape of the page. -/
theorem structure_independent_of_texts {page other : Page} (same : page.shape = other.shape) :
    skeleton page.html = skeleton other.html ∧
      Part.readBack (page.parts.map Part.form) other.html = other.texts := by
  refine ⟨skeleton_html same, ?_⟩
  rw [map_form_parts same, Part.readBack_map_form, html_eq_writeAll_parts,
    Part.readBack_writeAll, filterMap_parts]

/-- Two pages of the same shape, one with texts that look like markup. -/
theorem structure_independent_of_texts_markup :
    let page : Page :=
      { address := ⟨["sql".toList], by decide, by decide⟩
        content := "<p>Some text"
        headings := [⟨2, "Joins".toList, "joins".toList⟩]
        sidebar := .link ⟨"sql".toList, "SQL".toList, "sql".toList, some "Queries".toList⟩ .empty
          .empty
        stylesheet := .link "/style.css"
        fontsUrl := "/fonts.css" }
    let other : Page :=
      { address := ⟨["</title><script>".toList], by decide, by decide⟩
        content := "<p>Some text"
        headings := [⟨4, "</a><b id=1>".toList, "\x22 class=\x22".toList⟩]
        sidebar := .link ⟨[], "<!--".toList, "\x22><i>".toList, some "</div>&amp;".toList⟩ .empty
          .empty
        stylesheet := .link "' onload='"
        fontsUrl := "\x22>" }
    page.shape = other.shape ∧ skeleton page.html = skeleton other.html ∧
      Part.readBack (page.parts.map Part.form) other.html = other.texts := by
  intro page other
  have same : page.shape = other.shape := by decide
  exact ⟨same, structure_independent_of_texts same⟩

end DocSite.Page
