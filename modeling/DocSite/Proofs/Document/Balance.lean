import DocSite.Proofs.Document.Injection
import DocSite.Proofs.Document.Section
import DocSite.Proofs.Document.Shape
import DocSite.Proofs.Html.Frames

/-!
# Tags of a page fit together

A parsed document is written as elements that are closed in the opposite order in which they were
opened, and none of its links is inside another one. That is so although its headings become links
and its highlighted code is markup from elsewhere.
-/

namespace DocSite

open Html (Leads Piece Vocabulary Writer openAfter? tagsIn withoutSpans)
open Markdown (enclose)

namespace Document

variable {opened : List Text} {events front back content : List Event} {tag : Tag}

/-! ## Links in links -/

/-- If a link is open already, no other one opens among the events. -/
def Fits (opened : List Text) (events : List Event) : Prop :=
  ("a" : Text) ∈ opened → ∀ event ∈ events, event.opensLink = false

namespace Fits

theorem of_subset {more : List Text} (fits : Fits opened events) (part : content ⊆ events)
    (link : ("a" : Text) ∈ more → ("a" : Text) ∈ opened) : Fits more content :=
  fun opens event member => fits (link opens) event (part member)

theorem left (fits : Fits opened (front ++ back)) : Fits opened front :=
  fits.of_subset (List.subset_append_left front back) id

theorem right (fits : Fits opened (front ++ back)) : Fits opened back :=
  fits.of_subset (List.subset_append_right front back) id

theorem outside (fits : Fits opened (enclose tag content)) (opens : (Event.start tag).opensLink) :
    ("a" : Text) ∉ opened := by
  intro link
  have closed := ((Markdown.forall_mem_enclose tag content).mp (fits link)).1
  rw [opens] at closed
  contradiction

theorem inside (fits : Fits opened (enclose tag content)) (mayHold : tag.MayHoldApart content)
    (writer : Writer) : Fits (writer.openedBy tag ++ opened) content := by
  intro link event member
  rcases List.mem_append.mp link with new | old
  · obtain ⟨destination, title, rfl⟩ := Writer.link_of_mem_openedBy new
    exact mayHold.2 _ _ rfl event member
  · exact ((Markdown.forall_mem_enclose tag content).mp (fits old)).2.1 event member

end Fits

/-! ## Single events -/

theorem leads_leaf {event : Event} (isLeaf : event.isLeaf) (free : event.isMarkup = false) :
    Leads opened [event] opened := by
  refine .single fun writer idle => ?_
  cases event with
  | start tag => simp [Event.isLeaf] at isLeaf
  | finish tag => simp [Event.isLeaf] at isLeaf
  | html markup => simp [Event.isMarkup] at free
  | inlineHtml markup => simp [Event.isMarkup] at free
  | text content =>
      simp only [Writer.step, idle]
      split
      · exact ⟨Piece.Leads.refl _, rfl, rfl, rfl⟩
      · exact ⟨Piece.Leads.refl _, .refl writer⟩
  | code content =>
      simp only [Writer.step]
      split
      · exact ⟨Piece.Leads.refl _, rfl, rfl, rfl⟩
      · refine ⟨?_, .refl writer⟩
        rw [Piece.Leads.startTag_cons _ (by decide), Piece.Leads.text_cons,
          Piece.Leads.endTag_cons (by decide)]
        exact .refl _
  | softBreak =>
      simp only [Writer.step]
      split
      · exact ⟨Piece.Leads.refl _, rfl, rfl, rfl⟩
      · exact ⟨Piece.Leads.refl _, .refl writer⟩
  | hardBreak | rule | taskMarker _ =>
      exact ⟨(Piece.Leads.void_cons _ (by decide)).mpr (.refl _), .refl writer⟩
  | inlineMath _ | displayMath _ | footnoteReference _ =>
      exact ⟨Piece.Leads.refl _, .refl writer⟩

/-! ## Running text -/

theorem table_step (writer : Writer) {event : Event} (inline : event.isInline) :
    (writer.step event).1.table = writer.table := by
  cases event with
  | start tag =>
      cases tag with
      | emphasis | strong | strikethrough | superscript | subscript | link _ _ => rfl
      | image destination title =>
          simp only [Writer.step, Writer.startTag]
          split <;> rfl
      | _ => simp [Event.isInline] at inline
  | finish tag =>
      cases tag with
      | emphasis | strong | strikethrough | superscript | subscript | link => rfl
      | image =>
          simp only [Writer.step, Writer.endTag]
          split <;> rfl
      | _ => simp [Event.isInline] at inline
  | text content =>
      simp only [Writer.step]
      split
      · rfl
      · split <;> rfl
  | code content =>
      simp only [Writer.step]
      split <;> rfl
  | softBreak =>
      simp only [Writer.step]
      split <;> rfl
  | _ => rfl

/-- Running text is written without changing the place in a table. -/
theorem table_run (writer : Writer) (inline : ∀ event ∈ events, event.isInline) :
    (writer.run events).1.table = writer.table := by
  induction events generalizing writer with
  | nil => rfl
  | cons event events induction =>
      simp only [List.mem_cons, forall_eq_or_imp] at inline
      rw [Writer.run_cons]
      exact (induction _ inline.2).trans (table_step writer inline.1)

theorem Shaped.leads_inline (shaped : Shaped Tag.MayHoldApart events)
    (inline : ∀ event ∈ events, event.isInline)
    (free : ∀ event ∈ events, event.isMarkup = false) (fits : Fits opened events) :
    Leads opened events opened := by
  induction shaped generalizing opened with
  | nil => exact .nil opened
  | leaf isLeaf => exact leads_leaf isLeaf (free _ (by simp))
  | @element tag inner other mayHold _ induction =>
      obtain ⟨opens, inlineInner, -⟩ := (Markdown.forall_mem_enclose tag inner).mp inline
      obtain ⟨-, freeInner, -⟩ := (Markdown.forall_mem_enclose tag inner).mp free
      have frame : tag.isFrame := by
        cases tag <;> first | rfl | simp [Event.isInline] at opens
      refine .enclose frame ?_ ?_ ?_
      · rintro destination title rfl
        exact fits.outside rfl
      · intro writer
        exact induction inlineInner freeInner (fits.inside mayHold writer)
      · rintro rfl
        simp [Event.isInline] at opens
  | table =>
      have opens := inline _ List.mem_cons_self
      simp [Event.isInline] at opens
  | append _ _ leftInduction rightInduction =>
      simp only [List.mem_append, or_imp, forall_and] at inline free
      exact (leftInduction inline.1 free.1 fits.left).append
        (rightInduction inline.2 free.2 fits.right)

/-! ## Headings -/

theorem opensLink_of_isInline {event : Event} (inline : event.isInline)
    (other : isLink event = false) : event.opensLink = false := by
  cases event with
  | start tag =>
      cases tag with
      | link destination title => simp [isLink] at other
      | heading level id => simp [Event.isInline] at inline
      | _ => rfl
  | _ => rfl

/-- What a heading holds becomes one link, and the links in it go. -/
theorem leads_linkContent (shaped : Shaped Tag.MayHoldApart content)
    (inline : ∀ event ∈ content, event.isInline)
    (free : ∀ event ∈ content, event.isMarkup = false) (id : Text)
    (outside : ("a" : Text) ∉ opened) : Leads opened (linkContent id content) opened := by
  let anchor := Piece.startTag "a" [.of "href" ('#' :: id)]
  have opens : Leads opened [.html anchor.write] ("a" :: opened) := by
    have within : anchor.Within .document := Piece.within_startTag_of (by decide) (by decide) _
    exact .html ((Piece.Leads.markup_write Vocabulary.readable_document (by decide) within).mpr
      ((Piece.Leads.link_cons _ outside).mpr (.refl _)))
  have fits : Fits ("a" :: opened) (content.filter fun event => !isLink event) := by
    intro _ event member
    obtain ⟨present, other⟩ := List.mem_filter.mp member
    exact opensLink_of_isInline (inline event present) (by simpa using other)
  have kept : Leads ("a" :: opened) (content.filter fun event => !isLink event)
      ("a" :: opened) :=
    (shaped.filter_links inline).leads_inline
      (fun event member => inline event (List.mem_of_mem_filter member))
      (fun event member => free event (List.mem_of_mem_filter member)) fits
  have closes : Leads ("a" :: opened) [.html (Piece.endTag "a").write] opened := by
    have within : (Piece.endTag "a").Within .document :=
      show ("a" : Text) ∈ Vocabulary.document.elements by decide
    exact .html ((Piece.Leads.markup_write Vocabulary.readable_document (by decide) within).mpr
      ((Piece.Leads.endTag_cons (by decide)).mpr (.refl _)))
  exact (opens.append kept).append closes

/-! ## Code -/

theorem Spanned.withoutSpans_tagsIn {code markup : Text} (spanned : Spanned code markup) :
    withoutSpans (tagsIn markup) = [] := by
  induction spanned with
  | nil => rfl
  | @char c written code markup escaped _ induction =>
      have isText : Vocabulary.inserted.IsText written := by
        rcases escaped with rfl | rfl
        · exact Vocabulary.isText_escapeChar (by decide) c
        · exact isText_codeEscapeChar c
      rw [Html.tagsIn_append_plain isText.not_mem, induction]
  | opening classes _ induction =>
      have within : (Piece.startTag "span" [.of "class" classes]).Within .document :=
        Piece.within_startTag_of (by decide) (by decide) classes
      rw [Piece.tagsIn_write_append Vocabulary.readable_document (by decide) within]
      exact induction
  | closing _ induction =>
      have within : (Piece.endTag "span").Within .document :=
        show ("span" : Text) ∈ Vocabulary.document.elements by decide
      rw [Piece.tagsIn_write_append Vocabulary.readable_document (by decide) within]
      exact induction

theorem leads_highlightBlock {tools : Tools} (spans : tools.SpansCode) {info : Text}
    {lines : List Event} {markup : Text} (made : highlightBlock? tools info lines = some markup) :
    Leads opened [.html markup] opened := by
  obtain ⟨language, highlighted, found, rfl⟩ := exists_of_highlightBlock made
  have spanned := spans _ _ _ found
  have within : ∀ piece ∈ highlightedBlock language highlighted, piece.Within .document :=
    fun piece member =>
      (highlightedBlock_within language spanned piece member).mono Vocabulary.inserted_le_document
  refine .html ((Piece.Leads.markup_writeAll Vocabulary.readable_document (by decide) within).mpr ?_)
  rw [highlightedBlock, Piece.Leads.startTag_cons _ (by decide),
    Piece.Leads.startTag_cons _ (by decide), Piece.Leads.markup_cons spanned.withoutSpans_tagsIn,
    Piece.Leads.endTag_cons (by decide), Piece.Leads.endTag_cons (by decide)]
  exact .refl _

/-- A code block is written as one, or as one that has been highlighted. -/
theorem leads_code {tools : Tools} (spans : tools.SpansCode) (kind : CodeBlockKind)
    (lines : List Text) :
    Leads opened ((Section.code kind lines).highlight tools).events opened := by
  have asIs (kind : CodeBlockKind) : Leads opened (Section.code kind lines).events opened :=
    .codeBlock kind lines
  cases kind with
  | indented => exact asIs _
  | fenced info =>
      cases made : highlightBlock? tools info (lines.map .text) with
      | none =>
          simp only [Section.highlight, made]
          exact asIs _
      | some markup =>
          simp only [Section.highlight, made]
          exact leads_highlightBlock spans made

/-! ## Documents -/

/-- What stages make of a parsed document opens and closes elements in order. -/
theorem Shaped.leads {tools : Tools} (spans : tools.SpansCode)
    (shaped : Shaped Tag.MayHoldApart events)
    (free : ∀ event ∈ events, event.isMarkup = false) (fits : Fits opened events) :
    Leads opened (Stage.runAll tools Stage.standard events) opened := by
  induction shaped generalizing opened with
  | nil =>
      rw [runAll_of_free tools _ (by simp)]
      exact .nil opened
  | leaf isLeaf =>
      rw [runAll_single tools _ (bounds_of_isLeaf isLeaf)]
      exact leads_leaf isLeaf (free _ (by simp))
  | @element tag content other mayHold isContent induction =>
      obtain ⟨-, freeContent, -⟩ := (Markdown.forall_mem_enclose tag content).mp free
      have leadsContent (writer : Writer) :=
        induction freeContent (fits.inside mayHold writer)
      have plain (opens : (Event.start tag).bounds = false)
          (closes : (Event.finish tag.toEnd).bounds = false) (frame : tag.isFrame) :
          Leads opened (Stage.runAll tools Stage.standard (enclose tag content)) opened := by
        rw [runAll_enclose tools _ opens closes isContent.sectioned]
        refine .enclose frame ?_ leadsContent ?_
        · rintro destination title rfl
          exact fits.outside rfl
        · -- A cell holds running text, which is written without changing the place in the table.
          rintro rfl writer
          have inline : ∀ event ∈ content, event.isInline := mayHold.1.admits
          rw [runAll_of_free tools _ fun event member => bounds_of_isInline (inline event member)]
          exact table_run writer inline
      cases tag with
      | heading level id =>
          have inline : ∀ event ∈ content, event.isInline := mayHold.1.admits
          rw [runAll_standard_heading tools level id fun event member =>
            bounds_of_isInline (inline event member)]
          refine .enclose rfl (by simp) (fun writer => ?_) (by simp)
          apply leads_linkContent isContent inline freeContent
          -- The link to the heading itself opens inside the heading, which stands in no link.
          intro link
          rcases List.mem_append.mp link with new | old
          · obtain ⟨_, _, equality⟩ := Writer.link_of_mem_openedBy new
            cases equality
          · exact fits.outside rfl old
      | codeBlock kind =>
          obtain ⟨lines, rfl⟩ := mayHold.1.admits
          rw [runAll_standard_code]
          exact leads_code spans kind lines
      | table _ => simp [Tag.isTable] at other
      | tableHead => exact absurd rfl mayHold.1.noHead
      | _ => exact plain rfl rfl rfl
  | @table alignments head rows _ _ isHead isRows headInduction rowsInduction =>
      have isHeadElement : Sectioned (enclose .tableHead head) := .enclose rfl rfl isHead.sectioned
      rw [runAll_enclose tools _ rfl rfl (isHeadElement.append isRows.sectioned),
        runAll_append tools _ isHeadElement isRows.sectioned,
        runAll_enclose tools _ rfl rfl isHead.sectioned]
      -- The body opens where the head ends, so the two parts stand in different elements.
      have inHead : head ⊆ enclose (.table alignments) (enclose .tableHead head ++ rows) := by
        intro event member
        simp [enclose, member]
      have inBody : rows ⊆ enclose (.table alignments) (enclose .tableHead head ++ rows) := by
        intro event member
        simp [enclose, member]
      exact .table alignments
        (headInduction (fun event member => free event (inHead member))
          (fits.of_subset inHead (by simp)))
        (rowsInduction (fun event member => free event (inBody member))
          (fits.of_subset inBody (by simp)))
  | append isLeft isRight leftInduction rightInduction =>
      simp only [List.mem_append, or_imp, forall_and] at free
      rw [runAll_append tools _ isLeft.sectioned isRight.sectioned]
      exact (leftInduction free.1 fits.left).append (rightInduction free.2 fits.right)

/-- The elements that are open at the end are read off the tags of the page. -/
theorem openAfter?_render {tools : Tools} (spans : tools.SpansCode) (stages : List Stage)
    (free : ∀ event ∈ events, event.isMarkup = false)
    (leads : Leads [] (Stage.runAll tools stages events) opened) :
    openAfter? [] (withoutSpans (tagsIn (Html.render (Stage.runAll tools stages events)))) =
      some opened := by
  have inserted : MarkupWithin .inserted events :=
    fun event member => Event.markupWithin_of_not_isMarkup (free event member)
  have within := Writer.run_within_of_markupWithin Vocabulary.writer_le_document {}
    ((inserted.runAll spans stages).mono Vocabulary.inserted_le_document)
  rw [Html.render, Writer.render,
    Piece.tagsIn_writeAll Vocabulary.readable_document (by decide) within]
  exact (leads {} rfl).1

/-- A document of the shape of parsed ones, without markup of its own and without links in links, is
written as well nested elements, apart from the spans of highlighted code: each tag that closes an
element closes the innermost one, nothing is open at the end, and no link is inside a link. Every
Markdown text without links in links is read as such a document. -/
theorem elements_nest (tools : Tools) (spans : tools.SpansCode) :
    (∀ events, Shaped Tag.MayHold events → linksApart false events →
      (∀ event ∈ events, event.isMarkup = false) →
      openAfter? [] (withoutSpans (tagsIn
        (Html.render (Stage.runAll tools Stage.standard events)))) = some []) ∧
    ∀ markdown, linksApart false (parse markdown) →
      openAfter? [] (withoutSpans (tagsIn
        (Html.render (Stage.runAll tools Stage.standard (parse markdown))))) = some [] := by
  have nest (events : List Event) (shaped : Shaped Tag.MayHold events)
      (apart : linksApart false events) (free : ∀ event ∈ events, event.isMarkup = false) :
      openAfter? [] (withoutSpans (tagsIn
        (Html.render (Stage.runAll tools Stage.standard events)))) = some [] :=
    openAfter?_render spans Stage.standard free
      ((shaped.apart apart).leads spans free (by simp [Fits]))
  exact ⟨nest, fun markdown apart =>
    nest _ (shaped_parse markdown) apart (isMarkup_parse .standard markdown)⟩

/-- A call-out with a heading that holds a link, a table with an image that holds one, and code. -/
theorem elements_nest_call_out :
    let quote := enclose (.blockQuote (some .note))
      (enclose (.heading .h2 none) (enclose (.link "/x" "") [.code "f"]))
    let cells := enclose .tableCell (enclose (.image "i" "") (enclose (.link "/y" "") [.text "<"]))
    let table := enclose (.table [.left]) (enclose .tableHead cells ++ enclose .tableRow cells)
    let code := enclose (.codeBlock (.fenced "rust")) [.text "fn f()"]
    Shaped Tag.MayHold (quote ++ table ++ code) ∧ linksApart false (quote ++ table ++ code) ∧
      (∀ event ∈ quote ++ table ++ code, event.isMarkup = false) ∧
      openAfter? [] (withoutSpans (tagsIn (Html.render
        (Stage.runAll .standard Stage.standard (quote ++ table ++ code))))) = some [] := by
  intro quote cells table code
  have isLink (destination : Text) {event : Event} (isLeaf : event.isLeaf)
      (other : isHeadingStart event = false) :
      Shaped Tag.MayHold (enclose (.link destination "") [event]) :=
    .element rfl ⟨trivial, by simp, fun _ _ _ => List.forall_mem_singleton.mpr other⟩ (.leaf isLeaf)
  have isHeading : Shaped Tag.MayHold
      (enclose (.heading .h2 none) (enclose (.link "/x" "") [.code "f"])) := by
    refine .element rfl (.of_admits rfl ?_) (isLink _ rfl rfl)
    show ∀ event ∈ enclose (.link "/x" "") [.code "f"], event.isInline
    decide
  have isCells : Shaped Tag.MayHold cells := by
    refine .element rfl (.of_admits rfl ?_)
      (.element rfl (.of_admits rfl trivial) (isLink _ rfl rfl))
    show ∀ event ∈ enclose (.image "i" "") (enclose (.link "/y" "") [.text "<"]), event.isInline
    decide
  have areCells : ConsistsOf .tableCell cells :=
    ⟨[enclose (.image "i" "") (enclose (.link "/y" "") [.text "<"])], rfl⟩
  have isTable : Shaped Tag.MayHold table :=
    .table areCells ⟨[cells], rfl⟩ isCells (.element rfl (.of_admits rfl areCells) isCells)
  have isCode : Shaped Tag.MayHold code :=
    .element rfl (.of_admits rfl ⟨["fn f()"], rfl⟩) (.leaf rfl)
  have shaped : Shaped Tag.MayHold (quote ++ table ++ code) :=
    ((Shaped.element rfl (.of_admits rfl trivial) isHeading).append isTable).append isCode
  have apart : linksApart false (quote ++ table ++ code) := by decide
  have free : ∀ event ∈ quote ++ table ++ code, event.isMarkup = false := by decide
  exact ⟨shaped, apart, free,
    (elements_nest .standard Tools.standard_spansCode).1 _ shaped apart free⟩

/-- A heading becomes a link, also in a link, and the head of a table opens the body of one, also
if it stands alone. -/
theorem heading_nests_in_link :
    let linked := enclose (.link "/x" "") (enclose (.heading .h2 none) [.text "t"])
    let lone := enclose .tableHead []
    Shaped Tag.Admits linked ∧ linksApart false linked ∧
      (∀ event ∈ linked, event.isMarkup = false) ∧
      Html.render (Stage.runAll .standard Stage.standard linked) =
        ("<a href=\"/x\"><h2 id=\"t\"><a href=\"#t\">t</a></h2></a>" : Text) ∧
      openAfter? [] (withoutSpans (tagsIn (Html.render
        (Stage.runAll .standard Stage.standard linked)))) = none ∧
    Shaped Tag.Admits lone ∧ linksApart false lone ∧
      (∀ event ∈ lone, event.isMarkup = false) ∧
      Html.render (Stage.runAll .standard Stage.standard lone) =
        ("<thead><tr></tr></thead><tbody>" : Text) ∧
      openAfter? [] (withoutSpans (tagsIn (Html.render
        (Stage.runAll .standard Stage.standard lone)))) = some [("tbody" : Text)] := by
  intro linked lone
  have isLinked : Shaped Tag.Admits linked := by
    refine .element rfl trivial (.element rfl ?_ (.leaf rfl))
    show ∀ event ∈ [Event.text "t"], event.isInline
    decide
  have isLone : Shaped Tag.Admits lone := .element rfl ⟨[], rfl⟩ .nil
  exact ⟨isLinked, by decide, by decide, by decide, by decide,
    isLone, by decide, by decide, by decide, by decide⟩

end Document

end DocSite
