import DocSite.Proofs.Document.Nesting
import DocSite.Proofs.Document.Pass

/-!
# Well nested documents as stages see them

To stages a well nested document is a list of sections: headings, code blocks, and single events
that are no part of either. A stage changes each section by itself and leaves a list of sections.
-/

namespace DocSite

/-- Whether an event is the start or the end of a heading or of a code block. -/
def Event.bounds (event : Event) : Bool :=
  Document.isHeadingStart event || Document.isHeadingEnd event || Document.isCodeStart event ||
    Document.isCodeEnd event

theorem Event.bounds_eq_false_iff (event : Event) :
    event.bounds = false ↔
      Document.isHeadingStart event = false ∧ Document.isHeadingEnd event = false ∧
        Document.isCodeStart event = false ∧ Document.isCodeEnd event = false := by
  simp [bounds, and_assoc]

namespace Document

/-! ## Sections -/

/-- A part of a well nested document. -/
inductive Section
  | plain (event : Event) (free : event.bounds = false)
  | heading (level : HeadingLevel) (id : Option Text) (inner : List Event)
    (free : ∀ event ∈ inner, event.bounds = false)
  | code (kind : CodeBlockKind) (lines : List Text)

namespace Section

/-- The events of a section. -/
def events : Section → List Event
  | plain event _ => [event]
  | heading level id inner _ =>
    .start (.heading level id) :: inner ++ [.finish (.heading level)]
  | code kind lines => .start (.codeBlock kind) :: lines.map .text ++ [.finish .codeBlock]

/-- The entry of a section in the outline, if it has one. -/
def listed? : Section → Option Heading
  | heading level id inner _ => listedHeading? (.start (.heading level id)) inner
  | _ => none

/-! ## Stages -/

/-- A section with its slug. -/
def slug : Section → Section
  | heading level _ inner free => heading level (some (slugify (headingText inner))) inner free
  | other => other

theorem linkContent_free (id : Text) {inner : List Event}
    (free : ∀ event ∈ inner, event.bounds = false) :
    ∀ event ∈ linkContent id inner, event.bounds = false :=
  forall_mem_linkContent (fun _ => rfl) free id

/-- A section that is linked to itself if it is a heading with an id. -/
def link : Section → Section
  | heading level (some id) inner free =>
    heading level (some id) (linkContent id inner) (linkContent_free id free)
  | other => other

/-- A section that is highlighted if it is code in a known language. -/
def highlight (tools : Tools) : Section → Section
  | code (.fenced info) lines =>
    match highlightBlock? tools info (lines.map .text) with
    | some markup => plain (.html markup) rfl
    | none => code (.fenced []) lines
  | other => other

/-- What a stage makes of a section. -/
def run (tools : Tools) : Stage → Section → Section
  | .slugHeadings => slug
  | .linkHeadings => link
  | .highlightCode => highlight tools

/-- What stages make of a section, one after the other. -/
def runAll (tools : Tools) (stages : List Stage) (part : Section) : Section :=
  stages.foldl (fun part stage => part.run tools stage) part

private theorem text_free (lines : List Text) :
    ∀ event ∈ lines.map Event.text, event.bounds = false := by
  intro event member
  obtain ⟨line, _, rfl⟩ := List.mem_map.mp member
  rfl

private theorem code_not_headingStart (kind : CodeBlockKind) (lines : List Text) :
    ∀ event ∈ (code kind lines).events, isHeadingStart event = false := by
  refine (Markdown.forall_mem_enclose (.codeBlock kind) _).mpr ⟨rfl, fun event member => ?_, rfl⟩
  exact ((Event.bounds_eq_false_iff event).mp (text_free lines event member)).1

theorem heading_not_codeStart (level : HeadingLevel) (id : Option Text)
    (inner : List Event) (free : ∀ event ∈ inner, event.bounds = false) :
    ∀ event ∈ (heading level id inner free).events, isCodeStart event = false := by
  refine (Markdown.forall_mem_enclose (.heading level id) _).mpr
    ⟨rfl, fun event member => ?_, rfl⟩
  exact ((Event.bounds_eq_false_iff event).mp (free event member)).2.2.1

/-- A pass over the headings leaves other sections as they are. -/
private theorem pass_headings
    {change : (opening : Event) → (inner : List Event) → (closing : Event) → List Event}
    {rewritten : Section → Section}
    (onHeading : ∀ level id inner free, (rewritten (heading level id inner free)).events =
      change (.start (.heading level id)) inner (.finish (.heading level)))
    (onPlain : ∀ event free, rewritten (plain event free) = plain event free)
    (onCode : ∀ kind lines, rewritten (code kind lines) = code kind lines)
    (sections : List Section) :
    Segment.pass isHeadingStart isHeadingEnd change (sections.flatMap events) =
      (sections.map rewritten).flatMap events := by
  induction sections with
  | nil => rfl
  | cons part sections induction =>
      rw [List.flatMap_cons, List.map_cons, List.flatMap_cons, ← induction]
      cases part with
      | plain event free =>
          rw [onPlain]
          apply Segment.pass_append
          simpa [events] using ((Event.bounds_eq_false_iff event).mp free).1
      | heading level id inner free =>
          rw [onHeading]
          refine Segment.pass_span rfl (fun event member => ?_) rfl rfl _
          have outside := (Event.bounds_eq_false_iff event).mp (free event member)
          exact ⟨outside.1, outside.2.1⟩
      | code kind lines =>
          rw [onCode]
          exact Segment.pass_append (code_not_headingStart kind lines) _

theorem slugHeadings_sections (sections : List Section) :
    slugHeadings (sections.flatMap events) = (sections.map slug).flatMap events := by
  rw [slugHeadings_eq]
  exact pass_headings (fun _ _ _ _ => rfl) (fun _ _ => rfl) (fun _ _ => rfl) sections

theorem linkHeadings_sections (sections : List Section) :
    linkHeadings (sections.flatMap events) = (sections.map link).flatMap events := by
  rw [linkHeadings_eq]
  refine pass_headings (fun level id inner free => ?_) (fun _ _ => rfl) (fun _ _ => rfl) sections
  cases id <;> rfl

private theorem events_highlight_code (tools : Tools) (kind : CodeBlockKind)
    (lines : List Text) :
    ((code kind lines).highlight tools).events =
      highlightEvents tools (.start (.codeBlock kind)) (lines.map .text) (.finish .codeBlock) := by
  cases kind with
  | indented => rfl
  | fenced info =>
      cases highlighted : highlightBlock? tools info (lines.map .text) with
      | some markup => simp [highlight, highlightEvents, highlighted, events]
      | none => simp [highlight, highlightEvents, highlighted, events]

theorem highlightCode_sections (tools : Tools) (sections : List Section) :
    highlightCode tools (sections.flatMap events) =
      (sections.map (highlight tools)).flatMap events := by
  rw [highlightCode_eq]
  induction sections with
  | nil => rfl
  | cons part sections induction =>
      rw [List.flatMap_cons, List.map_cons, List.flatMap_cons, ← induction]
      cases part with
      | plain event free =>
          apply Segment.pass_append
          simpa [events] using ((Event.bounds_eq_false_iff event).mp free).2.2.1
      | heading level id inner free =>
          exact Segment.pass_append (heading_not_codeStart level id inner free) _
      | code kind lines =>
          rw [events_highlight_code]
          refine Segment.pass_span rfl (fun event member => ?_) rfl rfl _
          have outside := (Event.bounds_eq_false_iff event).mp (text_free lines event member)
          exact outside.2.2

/-- Stages change each section by itself. -/
theorem runAll_sections (tools : Tools) (stages : List Stage) (sections : List Section) :
    Stage.runAll tools stages (sections.flatMap events) =
      (sections.map (runAll tools stages)).flatMap events := by
  induction stages generalizing sections with
  | nil =>
      have same : runAll tools [] = id := rfl
      simp [Stage.runAll, same]
  | cons stage stages induction =>
      have once : stage.run tools (sections.flatMap events) =
          (sections.map (run tools stage)).flatMap events := by
        cases stage with
        | slugHeadings => exact slugHeadings_sections sections
        | linkHeadings => exact linkHeadings_sections sections
        | highlightCode => exact highlightCode_sections tools sections
      have composed : runAll tools (stage :: stages) = runAll tools stages ∘ run tools stage := rfl
      rw [composed, ← List.map_map, ← induction, ← once]
      rfl

theorem gather_sections (sections : List Section) :
    Segment.gather isHeadingStart isHeadingEnd listedHeading? (sections.flatMap events) =
      sections.filterMap listed? := by
  induction sections with
  | nil => rfl
  | cons part sections induction =>
      rw [List.flatMap_cons, List.filterMap_cons]
      cases part with
      | plain event free =>
          rw [Segment.gather_append]
          · exact induction
          · simpa [events] using ((Event.bounds_eq_false_iff event).mp free).1
      | heading level id inner free =>
          rw [events, Segment.gather_span rfl _ rfl rfl, induction]
          · cases found : listedHeading? (.start (.heading level id)) inner <;>
              simp [listed?, found]
          · intro event member
            have outside := (Event.bounds_eq_false_iff event).mp (free event member)
            exact ⟨outside.1, outside.2.1⟩
      | code kind lines =>
          rw [Segment.gather_append (code_not_headingStart kind lines)]
          exact induction

end Section

/-! ## Well nested documents -/

theorem bounds_of_isLeaf {event : Event} (isLeaf : event.isLeaf) : event.bounds = false := by
  cases event with
  | start tag => simp [Event.isLeaf] at isLeaf
  | finish tag => simp [Event.isLeaf] at isLeaf
  | _ => rfl

theorem bounds_of_isInline {event : Event} (inline : event.isInline) : event.bounds = false := by
  cases event with
  | start tag =>
      cases tag with
      | heading level id => simp [Event.isInline] at inline
      | codeBlock kind => simp [Event.isInline] at inline
      | _ => rfl
  | finish tag =>
      cases tag with
      | heading level => simp [Event.isInline] at inline
      | codeBlock => simp [Event.isInline] at inline
      | _ => rfl
  | _ => rfl

/-- The document is a list of sections. -/
def Sectioned (events : List Event) : Prop :=
  ∃ sections : List Section, events = sections.flatMap Section.events

namespace Sectioned

variable {left right inner events : List Event}

theorem nil : Sectioned [] :=
  ⟨[], rfl⟩

theorem single {event : Event} (free : event.bounds = false) : Sectioned [event] :=
  ⟨[.plain event free], rfl⟩

theorem append (isLeft : Sectioned left) (isRight : Sectioned right) :
    Sectioned (left ++ right) := by
  obtain ⟨leftParts, rfl⟩ := isLeft
  obtain ⟨rightParts, rfl⟩ := isRight
  exact ⟨leftParts ++ rightParts, by simp⟩

theorem enclose {tag : Tag} (opens : (Event.start tag).bounds = false)
    (closes : (Event.finish tag.toEnd).bounds = false) (isInner : Sectioned inner) :
    Sectioned (Markdown.enclose tag inner) :=
  ((single opens).append isInner).append (single closes)

theorem of_free (free : ∀ event ∈ events, event.bounds = false) : Sectioned events := by
  induction events with
  | nil => exact nil
  | cons event events induction =>
      simp only [List.mem_cons, forall_eq_or_imp] at free
      exact (single free.1).append (induction free.2)

end Sectioned

/-- Only what headings and code blocks hold is kept together; other elements are taken apart. -/
theorem WellNested.sectioned {events : List Event} (nested : WellNested events) :
    Sectioned events := by
  induction nested with
  | nil => exact .nil
  | leaf isLeaf => exact .single (bounds_of_isLeaf isLeaf)
  | append _ _ leftInduction rightInduction => exact leftInduction.append rightInduction
  | @element tag inner canHold _ induction =>
      cases tag with
      | heading level id =>
          refine ⟨[.heading level id inner fun event member =>
            bounds_of_isInline (canHold event member)], ?_⟩
          simp [Markdown.enclose, Section.events, Tag.toEnd]
      | codeBlock kind =>
          obtain ⟨lines, rfl⟩ := canHold
          refine ⟨[.code kind lines], ?_⟩
          simp [Markdown.enclose, Section.events, Tag.toEnd]
      | _ => exact .enclose rfl rfl induction

/-! ## Stages on parts of documents -/

section Parts

variable (tools : Tools) (stages : List Stage) {left right inner events : List Event}

theorem Section.runAll_plain (event : Event) (free : event.bounds = false) :
    (plain event free).runAll tools stages = plain event free := by
  induction stages with
  | nil => rfl
  | cons stage stages induction => cases stage <;> exact induction

theorem runAll_single {event : Event} (free : event.bounds = false) :
    Stage.runAll tools stages [event] = [event] := by
  have changed := Section.runAll_sections tools stages [.plain event free]
  simpa [Section.runAll_plain, Section.events] using changed

theorem runAll_append (isLeft : Sectioned left) (isRight : Sectioned right) :
    Stage.runAll tools stages (left ++ right) =
      Stage.runAll tools stages left ++ Stage.runAll tools stages right := by
  obtain ⟨leftParts, rfl⟩ := isLeft
  obtain ⟨rightParts, rfl⟩ := isRight
  rw [← List.flatMap_append, Section.runAll_sections, Section.runAll_sections,
    Section.runAll_sections, List.map_append, List.flatMap_append]

theorem runAll_enclose {tag : Tag} (opens : (Event.start tag).bounds = false)
    (closes : (Event.finish tag.toEnd).bounds = false) (isInner : Sectioned inner) :
    Stage.runAll tools stages (Markdown.enclose tag inner) =
      Markdown.enclose tag (Stage.runAll tools stages inner) := by
  have inOrder (inner : List Event) : Markdown.enclose tag inner =
      [.start tag] ++ inner ++ [.finish tag.toEnd] := rfl
  rw [inOrder, inOrder,
    runAll_append tools stages ((Sectioned.single opens).append isInner) (.single closes),
    runAll_append tools stages (.single opens) isInner, runAll_single tools stages opens,
    runAll_single tools stages closes]

theorem runAll_of_free (free : ∀ event ∈ events, event.bounds = false) :
    Stage.runAll tools stages events = events := by
  induction events with
  | nil => exact Section.runAll_sections tools stages []
  | cons event events induction =>
      simp only [List.mem_cons, forall_eq_or_imp] at free
      have parts := runAll_append tools stages (.single free.1) (.of_free free.2)
      rw [runAll_single tools stages free.1, induction free.2] at parts
      exact parts

theorem runAll_standard_heading (level : HeadingLevel) (id : Option Text)
    (free : ∀ event ∈ inner, event.bounds = false) :
    Stage.runAll tools Stage.standard (Markdown.enclose (.heading level id) inner) =
      Markdown.enclose (.heading level (some (slugify (headingText inner))))
        (linkContent (slugify (headingText inner)) inner) := by
  have changed := Section.runAll_sections tools Stage.standard [.heading level id inner free]
  simpa [Section.runAll, Section.run, Stage.standard, Section.slug, Section.link,
    Section.highlight, Section.events, Markdown.enclose, Tag.toEnd] using changed

theorem runAll_standard_code (kind : CodeBlockKind) (lines : List Text) :
    Stage.runAll tools Stage.standard (Markdown.enclose (.codeBlock kind) (lines.map .text)) =
      ((Section.code kind lines).highlight tools).events := by
  have changed := Section.runAll_sections tools Stage.standard [.code kind lines]
  simpa [Section.runAll, Section.run, Stage.standard, Section.slug, Section.link,
    Section.events, Markdown.enclose, Tag.toEnd] using changed

end Parts

/-! ## Raw HTML as text -/

/-- The element that is left of one once raw HTML counts as text. -/
def shownTag : Tag → Tag
  | .htmlBlock => .paragraph
  | tag => tag

theorem map_showMarkup_enclose (tag : Tag) (inner : List Event) :
    (Markdown.enclose tag inner).map showMarkup =
      Markdown.enclose (shownTag tag) (inner.map showMarkup) := by
  have opens : showMarkup (.start tag) = .start (shownTag tag) := by
    cases tag <;> rfl
  have closes : showMarkup (.finish tag.toEnd) = .finish (shownTag tag).toEnd := by
    cases tag <;> rfl
  simp [Markdown.enclose, opens, closes]

theorem isLeaf_showMarkup {event : Event} (isLeaf : event.isLeaf) :
    (showMarkup event).isLeaf := by
  cases event with
  | start tag => simp [Event.isLeaf] at isLeaf
  | finish tag => simp [Event.isLeaf] at isLeaf
  | _ => rfl

theorem isInline_showMarkup {event : Event} (inline : event.isInline) :
    (showMarkup event).isInline := by
  unfold showMarkup
  split
  · simp [Event.isInline] at inline
  · simp [Event.isInline] at inline
  · rfl
  · rfl
  · exact inline

theorem canHold_shownTag {tag : Tag} {inner : List Event} (canHold : tag.CanHold inner) :
    (shownTag tag).CanHold (inner.map showMarkup) := by
  cases tag with
  | heading level id =>
      intro event member
      obtain ⟨source, present, rfl⟩ := List.mem_map.mp member
      exact isInline_showMarkup (canHold source present)
  | codeBlock kind =>
      obtain ⟨lines, rfl⟩ := canHold
      exact ⟨lines, by simp [showMarkup]⟩
  | _ => trivial

namespace WellNested

theorem map_showMarkup {events : List Event} (nested : WellNested events) :
    WellNested (events.map showMarkup) := by
  induction nested with
  | nil => exact nil
  | leaf isLeaf => exact leaf (isLeaf_showMarkup isLeaf)
  | element canHold _ induction =>
      rw [map_showMarkup_enclose]
      exact element (canHold_shownTag canHold) induction
  | append _ _ leftInduction rightInduction =>
      rw [List.map_append]
      exact leftInduction.append rightInduction

/-- A well nested document is a list of sections, also once raw HTML counts as text. -/
theorem exists_sections {events : List Event} (nested : WellNested events) :
    ∃ sections : List Section, events.map showMarkup = sections.flatMap Section.events :=
  nested.map_showMarkup.sectioned

end WellNested

end Document

end DocSite
