import DocSite.Proofs.Document.Injection
import DocSite.Proofs.Document.Section
import DocSite.Proofs.Html.HeadingTags
import DocSite.Site.View

/-!
# Outline and page

The outline of a document is read off its Markdown, and its markup is made on another way. Still the
outline lists just the headings of its levels that are found in the markup, with the ids that they
have there; and every heading in the markup begins with a link to itself.
-/

namespace DocSite

open Document Html

/-! ## Sections as they are written -/

theorem Event.isHeadingTag_eq_false {event : Event} (free : event.bounds = false) :
    event.isHeadingTag = false := by
  cases event with
  | start tag =>
      cases tag with
      | heading level id => simp [bounds, isHeadingStart] at free
      | _ => rfl
  | finish tag =>
      cases tag with
      | heading level => simp [bounds, isHeadingEnd] at free
      | _ => rfl
  | _ => rfl

namespace Html.Writer

theorem render_cons (writer : Writer) (event : Event) (rest : List Event) :
    (writer.render (event :: rest)).2 =
      Piece.writeAll (writer.step event).2 ++ ((writer.step event).1.render rest).2 := by
  simp [render, run, Piece.writeAll]

/-- Events that are no tags of headings add no such tags to what is written for the others. -/
theorem headingTags_render_append (writer : Writer) {left : List Event}
    (within : MarkupWithin .flat left) (other : ∀ event ∈ left, event.isHeadingTag = false)
    (right : List Event) :
    headingTags (writer.render (left ++ right)).2 =
      headingTags ((writer.render left).1.render right).2 := by
  have isMarkup := writer.render_isMarkup_of_no_heading Vocabulary.body_le_flat within other
  rw [render_append, headingTags_append_isMarkup isMarkup]

theorem headingTags_render_finish (writer : Writer) (level : HeadingLevel) (rest : List Event) :
    headingTags (writer.render (.finish (.heading level) :: rest)).2 =
      headingTags (writer.render rest).2 := by
  have written : Piece.writeAll (writer.step (.finish (.heading level))).2 =
      (Piece.endTag (headingName level)).write := by
    simp [step, endTag, Piece.writeAll]
  rw [render_cons, written, headingTags_endTag]
  rfl

/-- What a heading that is linked to itself adds is a tag with its level and its id, and with the
link behind it. -/
theorem headingTags_render_heading (writer : Writer) (level : HeadingLevel) (id : Text)
    {inner : List Event} (within : MarkupWithin .flat (linkContent id inner))
    (other : ∀ event ∈ linkContent id inner, event.isHeadingTag = false) (rest : List Event) :
    ∃ (tag : HeadingTag) (next : Writer),
      tag.levelAndId? = some (level.number, id) ∧ tag.LinksToItself ∧
        headingTags (writer.render (.start (.heading level (some id)) :: linkContent id inner ++
            [.finish (.heading level)] ++ rest)).2 =
          tag :: headingTags (next.render rest).2 := by
  let link := Piece.startTag "a" [.of "href" ('#' :: id)]
  let more := inner.filter (fun event => !isLink event) ++ [.html (Piece.endTag "a").write]
  have linkContent_eq : linkContent id inner = .html link.write :: more := rfl
  rw [linkContent_eq] at within other
  simp only [List.mem_cons, forall_eq_or_imp, MarkupWithin] at within other
  let content := (writer.render (more ++ .finish (.heading level) :: rest)).2
  obtain ⟨tag, known, linked, found⟩ := headingTags_linkedHeading level id content
  refine ⟨tag, (writer.render more).1, known, linked, ?_⟩
  have contentTags : headingTags content = headingTags ((writer.render more).1.render rest).2 := by
    rw [writer.headingTags_render_append within.2 other.2, headingTags_render_finish]
  have written : (writer.render (.start (.heading level (some id)) :: linkContent id inner ++
      [.finish (.heading level)] ++ rest)).2 =
      (Piece.startTag (headingName level) [.of "id" id]).write ++ (link.write ++ content) := by
    rw [linkContent_eq]
    simp [render_cons, step, startTag, Piece.writeAll, Piece.write, content]
  rw [written, found, contentTags]

end Html.Writer

namespace Document.Section

/-- The level and the slug of a section, if it is a heading. -/
def levelAndSlug? : Section → Option (Nat × Text)
  | heading level _ inner _ => some (level.number, slugify (headingText inner))
  | _ => none

private theorem highlight_code_not_heading (tools : Tools) (kind : CodeBlockKind)
    (lines : List Text) :
    ∀ event ∈ ((code kind lines).highlight tools).events, event.isHeadingTag = false := by
  have unchanged : ∀ kind, ∀ event ∈ (code kind lines).events, event.isHeadingTag = false := by
    intro kind
    refine (Markdown.forall_mem_enclose (.codeBlock kind) _).mpr ⟨rfl, fun event member => ?_, rfl⟩
    obtain ⟨line, _, rfl⟩ := List.mem_map.mp member
    rfl
  cases kind with
  | indented => exact unchanged .indented
  | fenced info =>
      cases found : highlightBlock? tools info (lines.map .text) with
      | some markup => simp [highlight, found, events, Event.isHeadingTag]
      | none => simpa only [highlight, found] using unchanged (.fenced [])

/-- The tags that a section adds once all standard stages have changed it. -/
theorem headingTags_render (tools : Tools) (writer : Writer) (part : Section)
    (within : MarkupWithin .flat (part.runAll tools Stage.standard).events) (rest : List Event) :
    ∃ (tags : List HeadingTag) (next : Writer),
      tags.filterMap HeadingTag.levelAndId? = part.levelAndSlug?.toList ∧
        (∀ tag ∈ tags, tag.LinksToItself) ∧
        headingTags (writer.render ((part.runAll tools Stage.standard).events ++ rest)).2 =
          tags ++ headingTags (next.render rest).2 := by
  cases part with
  | plain event free =>
      have other : ∀ changed ∈ [event], changed.isHeadingTag = false := by
        simpa using Event.isHeadingTag_eq_false free
      exact ⟨[], _, rfl, by simp, writer.headingTags_render_append within other rest⟩
  | heading level id inner free =>
      let slug := slugify (headingText inner)
      have linkedWithin : MarkupWithin .flat (linkContent slug inner) := by
        intro event member
        apply within event
        exact List.mem_cons_of_mem _ (List.mem_append_left _ member)
      have other : ∀ event ∈ linkContent slug inner, event.isHeadingTag = false :=
        fun event member => Event.isHeadingTag_eq_false (linkContent_free slug free event member)
      obtain ⟨tag, next, known, links, found⟩ :=
        writer.headingTags_render_heading level slug linkedWithin other rest
      refine ⟨[tag], next, ?_, ?_, found⟩
      · simp [known, levelAndSlug?, slug]
      · simpa using links
  | code kind lines =>
      have other := highlight_code_not_heading tools kind lines
      exact ⟨[], _, rfl, by simp, writer.headingTags_render_append within other rest⟩

theorem headingTags_render_all (tools : Tools) (writer : Writer) (sections : List Section)
    (within : ∀ part ∈ sections, MarkupWithin .flat (part.runAll tools Stage.standard).events) :
    let changed := (sections.map (runAll tools Stage.standard)).flatMap events
    let tags := headingTags (writer.render changed).2
    tags.filterMap HeadingTag.levelAndId? = sections.filterMap levelAndSlug? ∧
      ∀ tag ∈ tags, tag.LinksToItself := by
  induction sections generalizing writer with
  | nil => exact ⟨rfl, by simp [Writer.render, Writer.run, Piece.writeAll, headingTags]⟩
  | cons part sections induction =>
      simp only [List.mem_cons, forall_eq_or_imp] at within
      obtain ⟨tags, next, pairs, links, found⟩ := headingTags_render tools writer part within.1
        ((sections.map (runAll tools Stage.standard)).flatMap events)
      obtain ⟨pairsBehind, linksBehind⟩ := induction next within.2
      simp only [List.map_cons, List.flatMap_cons, found]
      refine ⟨?_, fun tag member => ?_⟩
      · rw [List.filterMap_append, pairs, pairsBehind, List.filterMap_cons]
        cases part.levelAndSlug? <;> rfl
      · rcases List.mem_append.mp member with member | member
        · exact links tag member
        · exact linksBehind tag member

/-- The outline has the slugs of the headings of its levels. -/
theorem map_listed? (sections : List Section) :
    (sections.filterMap listed?).map (fun entry => (entry.level, entry.id)) =
      (sections.filterMap levelAndSlug?).filter fun found => 2 ≤ found.1 && found.1 ≤ 4 := by
  rw [List.map_filterMap, List.filter_filterMap]
  congr
  funext part
  cases part with
  | heading level id inner free => cases level <;> rfl
  | _ => rfl

end Document.Section

/-! ## Agreement -/

/-- If Markdown is read as a well nested document and the highlighter puts nothing but spans around
escaped code, then the levels and ids in the outline are those of all tags of headings of the levels
two to four in the markup, in order, and every heading in the markup begins with a link to itself. -/
theorem Rendition.outline_agrees_with_page (tools : Tools) (spans : tools.SpansCode)
    (markdown : Text) (nested : WellNested (tools.read markdown)) :
    let document := Rendition.of ⟨Stage.standard, tools⟩ (.markdown markdown)
    document.headings.map (fun entry => (entry.level, entry.id)) =
        ((headingTags document.html).filterMap HeadingTag.levelAndId?).filter
          (fun found => 2 ≤ found.1 && found.1 ≤ 4) ∧
      ∀ tag ∈ headingTags document.html, tag.LinksToItself := by
  intro document
  -- Both ways start from the same sections: the outline reads them, the stages change them.
  obtain ⟨sections, parsed⟩ := nested.exists_sections
  have read : tools.parse markdown = sections.flatMap Section.events := parsed
  have outline : document.headings = sections.filterMap Section.listed? := by
    rw [← Section.gather_sections, ← read, ← outline_eq]
    rfl
  have changed : Stage.runAll tools Stage.standard (tools.parse markdown) =
      (sections.map (Section.runAll tools Stage.standard)).flatMap Section.events := by
    rw [read, Section.runAll_sections]
  have within : MarkupWithin .flat (Stage.runAll tools Stage.standard (tools.parse markdown)) := by
    have free : MarkupWithin .inserted (tools.parse markdown) := fun event member =>
      Event.markupWithin_of_not_isMarkup (isMarkup_parse tools markdown event member)
    exact (free.runAll spans Stage.standard).mono Vocabulary.inserted_le_flat
  have eachWithin : ∀ part ∈ sections,
      MarkupWithin .flat (part.runAll tools Stage.standard).events := by
    intro part member event inside
    apply within event
    rw [changed]
    exact List.mem_flatMap.mpr ⟨_, List.mem_map_of_mem member, inside⟩
  have html : document.html = (({} : Writer).render
      ((sections.map (Section.runAll tools Stage.standard)).flatMap Section.events)).2 := by
    rw [← changed]
    rfl
  obtain ⟨pairs, links⟩ := Section.headingTags_render_all tools {} sections eachWithin
  rw [html, outline, Section.map_listed?, pairs]
  exact ⟨rfl, links⟩

/-- A heading with quotes and angle brackets, one in a quote that holds a link, and one of a level
that no outline lists. -/
theorem Rendition.outline_agrees_with_page_three_headings :
    let markdown := "## A \"<b>\"\n\n> ### [x](y) z\n\n# T\n".toList
    let document := Rendition.of Stage.standard (.markdown markdown)
    Tools.standard.SpansCode ∧ WellNested (Tools.standard.read markdown) ∧
      document.headings.map (fun entry => (entry.level, entry.id)) =
        [(2, "a-\"<b>\"".toList), (3, "x-z".toList)] ∧
      document.headings.map (fun entry => (entry.level, entry.id)) =
          ((headingTags document.html).filterMap HeadingTag.levelAndId?).filter
            (fun found => 2 ≤ found.1 && found.1 ≤ 4) ∧
        ∀ tag ∈ headingTags document.html, tag.LinksToItself := by
  have nested := Markdown.wellNested_read "## A \"<b>\"\n\n> ### [x](y) z\n\n# T\n".toList
  refine ⟨Tools.standard_spansCode, nested, by decide +kernel, ?_⟩
  exact Rendition.outline_agrees_with_page .standard Tools.standard_spansCode _ nested

end DocSite
