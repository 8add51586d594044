import DocSite.Proofs.Html.HeadingTags
import DocSite.Proofs.Html.Marks
import DocSite.Proofs.Text.Digits
import DocSite.Proofs.Text.Pieces
import DocSite.Site.Page

/-!
# Reading a page

The document and the outline are read back from the text of a page. What stands before the document
may hold anything, as a stylesheet does; so the document is what stands behind the last place where
the sidebar ends and a document begins.
-/

namespace DocSite.Page

open Html Document

/-! ## Fixed parts -/

/-- What stands before a document: the end of the sidebar and two tags. -/
def documentMark : Text :=
  "</aside>\n<div class=\"content-wrapper\">\n<div class=\"markdown-content\">\n"

/-- What stands behind a document. -/
def documentEnd : Text := "\n</div>\n</div>\n"

/-- What stands before the items of an outline. -/
def outlineMark : Text := "<aside class=\"toc\">\n<p>On this document</p>\n<ul>\n"

/-- What stands behind the items of an outline. -/
def outlineEnd : Text := "</ul>\n</aside>\n"

/-- What stands before the level of an item. -/
def itemMark : Text := "<li class=\"level-"

/-- The end of a page. -/
def pageEnd : Text := "</div>\n</body>\n</html>\n"

/-! ## Reading -/

/-- A text without an ending that it has. -/
def withoutEnding? (ending text : Text) : Option Text :=
  if ending.isSuffixOf text then some (text.take (text.length - ending.length)) else none

/-- What stands behind the mark of the document. -/
def behindDocumentMark? (page : Text) : Option Text :=
  (behindEach documentMark page).getLast?

/-- The document on a page. It ends before the outline, or where the page ends. -/
def documentIn? (page : Text) : Option Text := do
  let behind ← behindDocumentMark? page
  match behindEach outlineMark behind with
  | [] => withoutEnding? (documentEnd ++ pageEnd) behind
  | outline :: _ => withoutEnding? (documentEnd ++ (outlineMark ++ outline)) behind

/-- The heading in an item of an outline, which stands one level lower there. -/
def headingIn? (item : Text) : Option Heading := do
  let level := item.takeWhile (· != '\x22')
  let (address, behind) ← valueBehind? "\x22><a href=\x22" (item.drop level.length)
  match address with
  | '#' :: id =>
    some
      { level := Text.decimalValue level + 1
        text := decode (behind.takeWhile (· != '<'))
        id := id }
  | _ => none

/-- The headings in the outline on a page, if there is an outline. -/
def headingsIn? (page : Text) : Option (List Heading) := do
  let behind ← behindDocumentMark? page
  let outline ← (behindEach outlineMark behind).head?
  (behindEach itemMark outline).mapM headingIn?

theorem withoutEnding?_append (ending text : Text) :
    withoutEnding? ending (text ++ ending) = some text := by
  have ends : ending.isSuffixOf (text ++ ending) = true := by simp
  rw [withoutEnding?, if_pos ends, List.length_append, Nat.add_sub_cancel, List.take_left]

/-! ## Places of the marks -/

theorem documentMark_begins : Begins documentMark (.closing "aside") := by
  have mark : documentMark = _ := Text.literal rfl
  rw [mark]
  exact ⟨_, rfl, fun _ => rfl⟩

theorem outlineMark_begins : Begins outlineMark (.opening "aside") := by
  have mark : outlineMark = _ := Text.literal rfl
  rw [mark]
  exact ⟨_, rfl, fun _ => rfl⟩

theorem itemMark_begins : Begins itemMark (.opening "li") := by
  have mark : itemMark = _ := Text.literal rfl
  rw [mark]
  exact ⟨_, rfl, fun _ => rfl⟩

theorem behindEach_ends :
    behindEach documentMark pageEnd = [] ∧ behindEach documentMark (outlineEnd ++ pageEnd) = [] ∧
      behindEach outlineMark pageEnd = [] ∧ behindEach itemMark (outlineEnd ++ pageEnd) = [] := by
  have document : documentMark = _ := Text.literal rfl
  have outline : outlineMark = _ := Text.literal rfl
  have item : itemMark = _ := Text.literal rfl
  have outlineEnds : outlineEnd = _ := Text.literal rfl
  have pageEnds : pageEnd = _ := Text.literal rfl
  rw [document, outline, item, outlineEnds, pageEnds]
  exact ⟨rfl, rfl, rfl, rfl⟩

theorem documentMark_lacks :
    Lacks documentMark documentMark.tail ∧ Lacks documentMark outlineMark := by
  have document : documentMark = _ := Text.literal rfl
  have outline : outlineMark = _ := Text.literal rfl
  rw [document, outline]
  exact ⟨fun _ => rfl, fun _ => rfl⟩

theorem isMarkup_items (headings : List Heading) :
    Vocabulary.document.IsMarkup (Piece.writeAll (headings.flatMap outlineItem)) := by
  apply Piece.isMarkup_writeAll (by decide)
  intro piece member
  obtain ⟨heading, -, inside⟩ := List.mem_flatMap.mp member
  simp only [outlineItem, element, List.cons_append, List.nil_append, List.mem_cons,
    List.not_mem_nil, or_false] at inside
  rcases inside with rfl | rfl | rfl | rfl | rfl | rfl
  · exact Piece.within_startTag_of (by decide) (by decide) _
  · exact Piece.within_startTag_of (by decide) (by decide) _
  · trivial
  · exact (by decide : ("a" : Text) ∈ Vocabulary.document.elements)
  · exact (by decide : ("li" : Text) ∈ Vocabulary.document.elements)
  · trivial

/-- The outline as a text; the page at the root has none. -/
def outlineText (page : Page) : Text :=
  if page.address.isRoot then []
  else outlineMark ++ (Piece.writeAll (page.headings.flatMap outlineItem) ++ outlineEnd)

theorem writeAll_append (left right : List Piece) :
    Piece.writeAll (left ++ right) = Piece.writeAll left ++ Piece.writeAll right :=
  List.flatMap_append

theorem documentEnd_eq :
    documentEnd = Piece.writeAll [newLine, finish "div", newLine, finish "div", newLine] := by
  refine (Text.literal rfl).trans ?_
  simp [Piece.writeAll, Piece.write, finish, newLine, escape, escapeChar]

theorem writeAll_contentPieces (content : Text) :
    Piece.writeAll [finish "aside", newLine] ++ Piece.writeAll (contentPieces content) =
      documentMark ++ (content ++ documentEnd) := by
  have mark : documentMark =
      Piece.writeAll ([finish "aside", newLine] ++
        [start "div" [("class", "content-wrapper")], newLine,
          start "div" [("class", "markdown-content")], newLine]) := by
    refine (Text.literal rfl).trans ?_
    simp [Piece.writeAll, Piece.write, Attribute.of, Attribute.write, start, finish, newLine,
      escape, escapeChar]
  rw [mark, documentEnd_eq, writeAll_append]
  simp [contentPieces, Piece.writeAll, Piece.write]

theorem writeAll_outlinePieces (headings : List Heading) :
    Piece.writeAll (outlinePieces headings) =
      outlineMark ++ (Piece.writeAll (headings.flatMap outlineItem) ++ outlineEnd) := by
  have mark : outlineMark =
      Piece.writeAll ([start "aside" [("class", "toc")], newLine] ++
        element "p" [] "On this document" ++ [newLine] ++ [start "ul" [], newLine]) := by
    refine (Text.literal rfl).trans ?_
    simp [Piece.writeAll, Piece.write, Attribute.of, Attribute.write, element, start, finish,
      newLine, escape, escapeChar]
  have ending : outlineEnd =
      Piece.writeAll ([finish "ul", newLine] ++ [finish "aside", newLine]) := by
    refine (Text.literal rfl).trans ?_
    simp [Piece.writeAll, Piece.write, finish, newLine, escape, escapeChar]
  simp only [mark, ending, outlinePieces, listOf, writeAll_append, List.append_assoc]

theorem writeAll_outline (page : Page) :
    Piece.writeAll (if page.address.isRoot then [] else outlinePieces page.headings) =
      page.outlineText := by
  rw [outlineText]
  split
  · rfl
  · exact writeAll_outlinePieces page.headings

theorem writeAll_ends :
    Piece.writeAll [finish "div", newLine, finish "body", newLine] ++
      Piece.writeAll [finish "html", newLine] = pageEnd := by
  refine Eq.trans ?_ (Text.literal rfl).symm
  simp [Piece.writeAll, Piece.write, finish, newLine, escape, escapeChar]

theorem outlineText_of_isRoot {page : Page} (isRoot : page.address.isRoot) :
    page.outlineText = [] :=
  if_pos isRoot

theorem outlineText_of_not_isRoot {page : Page} (other : ¬page.address.isRoot) :
    page.outlineText =
      outlineMark ++ (Piece.writeAll (page.headings.flatMap outlineItem) ++ outlineEnd) :=
  if_neg other

/-- The parts of a page, from the mark of the document on. What stands before is the same for all
documents. -/
theorem html_document (page : Page) :
    ∃ before, ∀ content headings,
      { page with content, headings }.html =
        before ++ (documentMark ++ (content ++
          (documentEnd ++ ({ page with content, headings }.outlineText ++ pageEnd)))) := by
  refine ⟨Piece.writeAll
    ([.markup "<!DOCTYPE html>", newLine, start "html" [("lang", "en")], newLine] ++ page.head ++
      [start "body" [], newLine] ++ navigation ++
      [start "div" [("class", "doc-wrapper")], newLine] ++
      [start "aside" [("class", "sidebar")], newLine] ++ element "h2" [] "Documentation" ++
      [newLine] ++ (if page.sidebar.isEmpty then [] else listOf (sidebarItems page.sidebar))),
    fun content headings => ?_⟩
  have content_eq := writeAll_contentPieces content
  have outline := writeAll_outline { page with content, headings }
  have same : { page with content, headings }.head = page.head := rfl
  rw [html, pieces, body, sidebarPieces, same]
  simp only [writeAll_append, outline, List.append_assoc, ← writeAll_ends]
  simp only [← List.append_assoc, content_eq]

/-- The parts of a page, from the mark of the document on. -/
theorem html_eq (page : Page) :
    ∃ before, page.html =
      before ++
        (documentMark ++ (page.content ++ (documentEnd ++ (page.outlineText ++ pageEnd)))) := by
  obtain ⟨before, same⟩ := html_document page
  exact ⟨before, same page.content page.headings⟩

/-- What stands before and behind the stylesheet of a page is the same for all stylesheets. -/
theorem html_stylesheet (page : Page) :
    ∃ before after, ∀ stylesheet,
      { page with stylesheet }.html =
        before ++ Piece.writeAll (stylesheetPieces stylesheet) ++ after := by
  refine ⟨Piece.writeAll
      ([.markup "<!DOCTYPE html>", newLine, start "html" [("lang", "en")], newLine] ++
        ([start "head" [], newLine, start "meta" [("charset", "utf-8")], newLine,
          start "meta" [("name", "viewport"),
            ("content", "width=device-width, initial-scale=1")], newLine] ++
          element "title" [] (title page.address) ++ [newLine] ++ stylesheetLink page.fontsUrl)),
    Piece.writeAll ([finish "head", newLine] ++ page.body ++ [finish "html", newLine]),
    fun stylesheet => ?_⟩
  have same : { page with stylesheet }.body = page.body := rfl
  rw [html, pieces, head, same]
  simp only [writeAll_append, List.append_assoc]

/-! ## The document -/

theorem aside_unknown : ("aside" : Text) ∉ Vocabulary.document.elements := by
  decide

theorem lacks_of_isMarkup {mark text : Text} {tag : TagMark} (begins : Begins mark tag)
    (aside : tag.name = "aside") (isMarkup : Vocabulary.document.IsMarkup text) :
    Lacks mark text := by
  refine isMarkup.lacks Vocabulary.readable_document begins ?_
  rw [aside]
  exact aside_unknown

theorem lacks_documentEnd {mark : Text} {tag : TagMark} (begins : Begins mark tag)
    (aside : tag.name = "aside") : Lacks mark documentEnd := by
  refine lacks_of_isMarkup begins aside ?_
  rw [documentEnd_eq]
  apply Piece.isMarkup_writeAll (by decide)
  simp [newLine, finish, Piece.Within]
  decide

variable {page : Page}

theorem behindEach_outlineText :
    behindEach documentMark (page.outlineText ++ pageEnd) = [] := by
  by_cases isRoot : page.address.isRoot
  · rw [outlineText_of_isRoot isRoot]
    exact behindEach_ends.1
  · have items := lacks_of_isMarkup documentMark_begins rfl (isMarkup_items page.headings)
    rw [outlineText_of_not_isRoot isRoot, List.append_assoc, documentMark_lacks.2,
      List.append_assoc, items, behindEach_ends.2.1]

/-- The mark of the document stands before the document and nowhere behind that. -/
theorem behindDocumentMark?_html (isMarkup : Vocabulary.document.IsMarkup page.content) :
    behindDocumentMark? page.html =
      some (page.content ++ (documentEnd ++ (page.outlineText ++ pageEnd))) := by
  have content := lacks_of_isMarkup documentMark_begins rfl isMarkup
  have ending := lacks_documentEnd documentMark_begins rfl
  obtain ⟨before, page_eq⟩ := html_eq page
  rw [behindDocumentMark?, page_eq]
  apply getLast?_behindEach documentMark_begins.ne_nil
  rw [documentMark_lacks.1, content, ending, behindEach_outlineText]

/-- The document that is read back from a page is the one that was put on it. -/
theorem documentIn?_html (isMarkup : Vocabulary.document.IsMarkup page.content) :
    documentIn? page.html = some page.content := by
  have content := lacks_of_isMarkup outlineMark_begins rfl isMarkup
  have ending := lacks_documentEnd outlineMark_begins rfl
  rw [documentIn?, behindDocumentMark?_html isMarkup]
  simp only [Option.bind_eq_bind, Option.bind_some, content _, ending _]
  by_cases isRoot : page.address.isRoot
  · rw [outlineText_of_isRoot isRoot, List.nil_append, behindEach_ends.2.2.1]
    exact withoutEnding?_append _ _
  · rw [outlineText_of_not_isRoot isRoot, List.append_assoc,
      behindEach_mark outlineMark_begins.ne_nil]
    exact withoutEnding?_append _ _

/-! ## The outline -/

/-- What stands behind the level in the item of a heading, up to the end of its link. -/
def linkText (heading : Heading) : Text :=
  Piece.writeAll (element "a" [("href", '#' :: heading.id)] heading.text)

theorem not_mem_special_of_mem_ofNat {n : Nat} {c : Char} (member : c ∈ Text.ofNat n) :
    c ∉ Vocabulary.special := by
  have none : Vocabulary.special.all (!Text.isAsciiDigit ·) := by decide
  intro inside
  have other := List.all_eq_true.mp none c inside
  rw [Text.isAsciiDigit_of_mem_ofNat member] at other
  exact Bool.noConfusion other

theorem escape_ofNat (n : Nat) : escape (Text.ofNat n) = Text.ofNat n := by
  have plain : (Text.ofNat n).map escapeChar = (Text.ofNat n).map fun c => [c] :=
    List.map_congr_left fun c member =>
      Vocabulary.escapeChar_plain (not_mem_special_of_mem_ofNat member)
  calc escape (Text.ofNat n)
    _ = ((Text.ofNat n).map escapeChar).flatten := List.flatMap_def
    _ = ((Text.ofNat n).map fun c => [c]).flatten := congrArg List.flatten plain
    _ = (Text.ofNat n).flatMap fun c => [c] := List.flatMap_def.symm
    _ = Text.ofNat n := List.flatMap_singleton' _

/-- The tag of an item has the level after the mark. -/
theorem write_itemStart (n : Nat) :
    (start "li" [("class", "level-".toList ++ Text.ofNat n)]).write =
      itemMark ++ (Text.ofNat n ++ ['\x22', '>']) := by
  have mark : itemMark =
      '<' :: "li".toList ++ ' ' :: "class".toList ++ '=' :: '\x22' :: escape "level-".toList := by
    refine (Text.literal rfl).trans ?_
    simp [escape, escapeChar]
  have split :
      escape ("level-".toList ++ Text.ofNat n) = escape "level-".toList ++ Text.ofNat n := by
    rw [escape, List.flatMap_append]
    exact congrArg (escape "level-".toList ++ ·) (escape_ofNat n)
  rw [mark, start, Piece.write]
  simp only [List.map_cons, List.map_nil, List.flatMap_singleton, Attribute.of, Attribute.write,
    split, List.append_assoc, List.cons_append, List.nil_append]

theorem linkText_append (heading : Heading) (rest : Text) :
    linkText heading ++ rest =
      "<a href=\x22".toList ++ (escape ('#' :: heading.id) ++ '\x22' :: '>' ::
        (escape heading.text ++ ("</a>".toList ++ rest))) := by
  simp [linkText, element, start, finish, Piece.writeAll, Piece.write, Attribute.of,
    Attribute.write]

theorem writeAll_outlineItem (heading : Heading) :
    Piece.writeAll (outlineItem heading) =
      (start "li" [("class", "level-".toList ++ Text.ofNat (heading.level - 1))]).write ++
        (linkText heading ++ "</li>\n".toList) := by
  have ending : Piece.writeAll [finish "li", newLine] = "</li>\n".toList := by
    simp [Piece.writeAll, Piece.write, finish, newLine, escape, escapeChar]
  rw [linkText, ← ending, ← writeAll_append]
  rfl

theorem headingIn?_item {heading : Heading} (level : 0 < heading.level) (rest : Text) :
    headingIn? (Text.ofNat (heading.level - 1) ++ '\x22' :: '>' :: (linkText heading ++ rest)) =
      some heading := by
  have quote : ∀ c ∈ Text.ofNat (heading.level - 1), (c != '\x22') = true := by
    intro c member
    exact bne_iff_ne.mpr fun same =>
      not_mem_special_of_mem_ofNat member (by rw [same]; decide)
  have bracket : '<' ∉ escape heading.text :=
    (Vocabulary.isText_escape (List.Subset.refl _ : _ ⊆ Vocabulary.body.references) _).not_mem
  have inside : ∀ c ∈ escape heading.text, (c != '<') = true := by
    intro c member
    exact bne_iff_ne.mpr fun same => bracket (same ▸ member)
  have digits : (Text.ofNat (heading.level - 1) ++
      '\x22' :: '>' :: (linkText heading ++ rest)).takeWhile (· != '\x22') =
        Text.ofNat (heading.level - 1) := by
    rw [List.takeWhile_append_of_pos quote]
    simp
  have shown : (escape heading.text ++ ("</a>".toList ++ rest)).takeWhile (· != '<') =
      escape heading.text := by
    rw [List.takeWhile_append_of_pos inside]
    simp
  have link := valueBehind?_escape "\x22><a href=\x22" ('#' :: heading.id)
    (escape heading.text ++ ("</a>".toList ++ rest))
  have behind : '\x22' :: '>' :: (linkText heading ++ rest) =
      "\x22><a href=\x22".toList ++ (escape ('#' :: heading.id) ++ '\x22' :: '>' ::
        (escape heading.text ++ ("</a>".toList ++ rest))) := by
    rw [linkText_append]
    rfl
  rw [headingIn?, digits, List.drop_left, behind]
  simp only [Option.bind_eq_bind]
  rw [link, Option.bind_some]
  simp only [shown, decode_escape, Text.decimalValue_ofNat, Nat.sub_add_cancel level]

theorem behindEach_item {heading : Heading} (level : 0 < heading.level) (rest : Text) :
    ∃ item, headingIn? item = some heading ∧
      behindEach itemMark (Piece.writeAll (outlineItem heading) ++ rest) =
        item :: behindEach itemMark rest := by
  have link : Lacks itemMark (linkText heading) := by
    have isMarkup : Vocabulary.inserted.IsMarkup (linkText heading) := by
      apply Piece.isMarkup_writeAll (by decide)
      simp only [element, List.forall_mem_cons]
      exact ⟨Piece.within_startTag_of (by decide) (by decide) _, trivial,
        (by decide : ("a" : Text) ∈ Vocabulary.inserted.elements), by simp⟩
    exact isMarkup.lacks ⟨by decide, by decide⟩ itemMark_begins (by decide)
  have front :
      Lacks itemMark (itemMark.tail ++ (Text.ofNat (heading.level - 1) ++ ['\x22', '>'])) := by
    apply itemMark_begins.lacks_plain
    have plain : '<' ∉ itemMark.tail := by
      have item : itemMark = _ := Text.literal rfl
      rw [item]
      decide
    have digits : '<' ∉ Text.ofNat (heading.level - 1) := fun member =>
      not_mem_special_of_mem_ofNat member (by decide)
    simp [plain, digits]
  have ending : Lacks itemMark "</li>\n".toList := fun _ => rfl
  refine ⟨_, headingIn?_item level ("</li>\n".toList ++ rest), ?_⟩
  rw [writeAll_outlineItem, write_itemStart, List.append_assoc, List.append_assoc,
    behindEach_mark itemMark_begins.ne_nil, ← List.append_assoc itemMark.tail, front]
  simp only [List.append_assoc, link _, ending _, List.cons_append, List.nil_append]

theorem mapM_headingIn?_items {headings : List Heading}
    (levels : ∀ heading ∈ headings, 0 < heading.level) {rest : Text}
    (none : behindEach itemMark rest = []) :
    (behindEach itemMark (Piece.writeAll (headings.flatMap outlineItem) ++ rest)).mapM headingIn? =
      some headings := by
  induction headings with
  | nil =>
      have nothing : behindEach itemMark (Piece.writeAll [] ++ rest) = [] := none
      rw [List.flatMap_nil, nothing]
      rfl
  | cons heading headings induction =>
      simp only [List.mem_cons, forall_eq_or_imp] at levels
      obtain ⟨item, read, places⟩ := behindEach_item levels.1
        (Piece.writeAll (headings.flatMap outlineItem) ++ rest)
      rw [List.flatMap_cons, writeAll_append, List.append_assoc, places, List.mapM_cons, read,
        induction levels.2]
      rfl

/-- The headings that are read back from the outline of a page are those that were put there. -/
theorem headingsIn?_html (isMarkup : Vocabulary.document.IsMarkup page.content)
    (other : ¬page.address.isRoot) (levels : ∀ heading ∈ page.headings, 0 < heading.level) :
    headingsIn? page.html = some page.headings := by
  have content := lacks_of_isMarkup outlineMark_begins rfl isMarkup
  have ending := lacks_documentEnd outlineMark_begins rfl
  rw [headingsIn?, behindDocumentMark?_html isMarkup]
  simp only [Option.bind_eq_bind, Option.bind_some, content _, ending _]
  rw [outlineText_of_not_isRoot other, List.append_assoc,
    behindEach_mark outlineMark_begins.ne_nil, List.head?_cons, Option.bind_some,
    List.append_assoc]
  exact mapM_headingIn?_items levels behindEach_ends.2.2.2

end DocSite.Page
