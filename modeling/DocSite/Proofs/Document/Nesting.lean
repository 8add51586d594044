import DocSite.Document.Parse
import DocSite.Document.Span

/-!
# Well nested documents

A document is well nested if every start has its end and what is between them is well nested too.
Every Markdown text is read as such a document, in which headings hold running text and code blocks
hold the text of their lines. Parsed documents have more of a shape: their links are parts of running
text, and their tables are made of a head and rows of cells.
-/

namespace DocSite

/-- Whether an event is neither a start nor an end. -/
def Event.isLeaf : Event → Bool
  | .start _ | .finish _ => false
  | _ => true

/-- Whether an event can stand in running text. -/
def Event.isInline : Event → Bool
  | .start tag =>
    match tag with
    | .emphasis | .strong | .strikethrough | .superscript | .subscript => true
    | .link _ _ | .image _ _ => true
    | _ => false
  | .finish tag =>
    match tag with
    | .emphasis | .strong | .strikethrough | .superscript | .subscript => true
    | .link | .image => true
    | _ => false
  | .html _ | .rule => false
  | _ => true

/-- The element can hold these events: a heading holds running text, and a code block holds nothing
but text. -/
def Tag.CanHold : Tag → (inner : List Event) → Prop
  | .heading _ _, inner => ∀ event ∈ inner, event.isInline
  | .codeBlock _, inner => ∃ lines : List Text, inner = lines.map .text
  | _, _ => True

open Markdown (enclose)

namespace Document

/-- The document is a sequence of complete elements and of events that are none. -/
inductive WellNested : List Event → Prop
  | nil : WellNested []
  | leaf {event : Event} : event.isLeaf → WellNested [event]
  | element {tag : Tag} {inner : List Event} :
      tag.CanHold inner → WellNested inner → WellNested (enclose tag inner)
  | append {left right : List Event} :
      WellNested left → WellNested right → WellNested (left ++ right)

/-! ## Parsed documents -/

/-- The events are elements of one kind, one after the other. -/
def ConsistsOf (tag : Tag) (events : List Event) : Prop :=
  ∃ contents : List (List Event), events = contents.flatMap (enclose tag)

end Document

/-- The events are of the kind that the element is made of: running text in a heading and in a cell,
the text of its lines in a code block, cells in a row and in the head of a table. -/
def Tag.Admits : Tag → (inner : List Event) → Prop
  | .heading _ _, inner | .tableCell, inner => ∀ event ∈ inner, event.isInline
  | .codeBlock _, inner => ∃ lines : List Text, inner = lines.map .text
  | .tableHead, inner | .tableRow, inner => Document.ConsistsOf .tableCell inner
  | _, _ => True

/-- A parsed element can hold these events. A link is a part of running text, so it holds no
heading, and the head of a table is no element by itself. -/
structure Tag.MayHold (tag : Tag) (inner : List Event) : Prop where
  admits : tag.Admits inner
  noHead : tag ≠ .tableHead
  noHeading : ∀ destination title, tag = .link destination title →
    ∀ event ∈ inner, Document.isHeadingStart event = false

/-- Whether the element is a table. -/
def Tag.isTable : Tag → Bool
  | .table _ => true
  | _ => false

/-- An element that has been read holds these events: those that it may hold, and running text if
it is an image. -/
def Tag.Holds (tag : Tag) (inner : List Event) : Prop :=
  tag.MayHold inner ∧
    ∀ destination title, tag = .image destination title → ∀ event ∈ inner, event.isInline

theorem Tag.Admits.canHold {tag : Tag} {inner : List Event} (admits : tag.Admits inner) :
    tag.CanHold inner := by
  cases tag with
  | heading level id => exact admits
  | codeBlock kind => exact admits
  | _ => trivial

theorem Tag.MayHold.canHold {tag : Tag} {inner : List Event} (mayHold : tag.MayHold inner) :
    tag.CanHold inner :=
  mayHold.admits.canHold

/-- Whether the element is a link or the head of a table. -/
def Tag.isLinkOrHead : Tag → Bool
  | .link _ _ | .tableHead => true
  | _ => false

theorem Tag.MayHold.of_admits {tag : Tag} {inner : List Event} (other : tag.isLinkOrHead = false)
    (admits : tag.Admits inner) : tag.MayHold inner := by
  refine ⟨admits, ?_, ?_⟩
  · rintro rfl
    contradiction
  · rintro destination title rfl
    contradiction

theorem Tag.Holds.of_admits {tag : Tag} {inner : List Event} (other : tag.isLinkOrHead = false)
    (noImage : ∀ destination title, tag ≠ .image destination title) (admits : tag.Admits inner) :
    tag.Holds inner :=
  ⟨.of_admits other admits, fun destination title same => absurd same (noImage destination title)⟩

namespace Document

/-- Every element is closed by its own end. A table is a head followed by rows, which are made of
cells; the other elements hold what elements are said to hold. -/
inductive Shaped (holds : Tag → List Event → Prop) : List Event → Prop
  | nil : Shaped holds []
  | leaf {event : Event} : event.isLeaf → Shaped holds [event]
  | element {tag : Tag} {inner : List Event} :
      tag.isTable = false → holds tag inner → Shaped holds inner → Shaped holds (enclose tag inner)
  | table {alignments : List Alignment} {head rows : List Event} :
      ConsistsOf .tableCell head → ConsistsOf .tableRow rows → Shaped holds head →
      Shaped holds rows →
      Shaped holds (enclose (.table alignments) (enclose .tableHead head ++ rows))
  | append {left right : List Event} :
      Shaped holds left → Shaped holds right → Shaped holds (left ++ right)

namespace Shaped

variable {holds : Tag → List Event → Prop}

theorem flatMap {α : Type} {parts : List α} {events : α → List Event}
    (shaped : ∀ part ∈ parts, Shaped holds (events part)) :
    Shaped holds (parts.flatMap events) := by
  induction parts with
  | nil => exact nil
  | cons part parts induction =>
      simp only [List.mem_cons, forall_eq_or_imp] at shaped
      exact shaped.1.append (induction shaped.2)

theorem map {α : Type} (parts : List α) {event : α → Event}
    (isLeaf : ∀ part, (event part).isLeaf) : Shaped holds (parts.map event) := by
  rw [List.map_eq_flatMap]
  exact flatMap fun part _ => leaf (isLeaf part)

theorem mono {more : Tag → List Event → Prop} {events : List Event}
    (part : ∀ {tag : Tag} {inner : List Event}, holds tag inner → more tag inner)
    (shaped : Shaped holds events) : Shaped more events := by
  induction shaped with
  | nil => exact nil
  | leaf isLeaf => exact leaf isLeaf
  | element other isHeld _ induction => exact element other (part isHeld) induction
  | table headHolds rowsHold _ _ headInduction rowsInduction =>
      exact table headHolds rowsHold headInduction rowsInduction
  | append _ _ leftInduction rightInduction => exact leftInduction.append rightInduction

theorem wellNested {events : List Event}
    (canHold : ∀ {tag : Tag} {inner : List Event}, holds tag inner → tag.CanHold inner)
    (shaped : Shaped holds events) : WellNested events := by
  induction shaped with
  | nil => exact .nil
  | leaf isLeaf => exact .leaf isLeaf
  | element _ isHeld _ induction => exact .element (canHold isHeld) induction
  | table _ _ _ _ headInduction rowsInduction =>
      have head : WellNested (enclose .tableHead _) := .element trivial headInduction
      exact .element trivial (head.append rowsInduction)
  | append _ _ leftInduction rightInduction => exact leftInduction.append rightInduction

end Shaped

end Document

namespace Markdown

open Document (Shaped WellNested)

/-- What is so of all events of an element is so of its start, of its content and of its end. -/
theorem forall_mem_enclose {P : Event → Prop} (tag : Tag) (inner : List Event) :
    (∀ event ∈ enclose tag inner, P event) ↔
      P (.start tag) ∧ (∀ event ∈ inner, P event) ∧ P (.finish tag.toEnd) := by
  simp [enclose, or_imp, forall_and]

/-! ## Running text -/

theorem isInline_enclose {tag : Tag} {inner : List Event} (opens : (Event.start tag).isInline)
    (closes : (Event.finish tag.toEnd).isInline) (inline : ∀ event ∈ inner, event.isInline) :
    ∀ event ∈ enclose tag inner, event.isInline :=
  (forall_mem_enclose tag inner).mpr ⟨opens, inline, closes⟩

mutual

theorem Inline.isInline_events (piece : Inline) : ∀ event ∈ piece.events, event.isInline := by
  cases piece with
  | emphasis content => exact isInline_enclose rfl rfl (Inline.isInline_eventsOfList content)
  | strong content => exact isInline_enclose rfl rfl (Inline.isInline_eventsOfList content)
  | strikethrough content =>
      exact isInline_enclose rfl rfl (Inline.isInline_eventsOfList content)
  | link destination title content =>
      exact isInline_enclose rfl rfl (Inline.isInline_eventsOfList content)
  | image destination title content =>
      exact isInline_enclose rfl rfl (Inline.isInline_eventsOfList content)
  | _ => simp [Inline.events, Event.isInline]

theorem Inline.isInline_eventsOfList (pieces : List Inline) :
    ∀ event ∈ Inline.eventsOfList pieces, event.isInline := by
  cases pieces with
  | nil => simp [Inline.eventsOfList]
  | cons piece pieces =>
      intro event member
      rcases List.mem_append.mp member with member | member
      · exact Inline.isInline_events piece event member
      · exact Inline.isInline_eventsOfList pieces event member

end

theorem isHeadingStart_of_isInline {event : Event} (inline : event.isInline) :
    Document.isHeadingStart event = false := by
  cases event with
  | start tag =>
      cases tag with
      | heading level id => simp [Event.isInline] at inline
      | _ => rfl
  | _ => rfl

mutual

theorem Inline.shaped_events (piece : Inline) : Shaped Tag.Holds piece.events := by
  cases piece with
  | emphasis content =>
      exact .element rfl (.of_admits rfl (by simp) trivial) (Inline.shaped_eventsOfList content)
  | strong content =>
      exact .element rfl (.of_admits rfl (by simp) trivial) (Inline.shaped_eventsOfList content)
  | strikethrough content =>
      exact .element rfl (.of_admits rfl (by simp) trivial) (Inline.shaped_eventsOfList content)
  | link destination title content =>
      have noHeading : ∀ event ∈ Inline.eventsOfList content,
          Document.isHeadingStart event = false := fun event member =>
        isHeadingStart_of_isInline (Inline.isInline_eventsOfList content event member)
      exact .element rfl ⟨⟨trivial, by simp, fun _ _ _ => noHeading⟩, by simp⟩
        (Inline.shaped_eventsOfList content)
  | image destination title content =>
      exact .element rfl ⟨.of_admits rfl trivial, fun _ _ _ => Inline.isInline_eventsOfList content⟩
        (Inline.shaped_eventsOfList content)
  | _ => exact .leaf rfl

theorem Inline.shaped_eventsOfList (pieces : List Inline) :
    Shaped Tag.Holds (Inline.eventsOfList pieces) := by
  cases pieces with
  | nil => exact .nil
  | cons piece pieces =>
      exact (Inline.shaped_events piece).append (Inline.shaped_eventsOfList pieces)

end

/-! ## Blocks -/

private theorem consistsOf_row (around : Surroundings) (row : List Prose) :
    Document.ConsistsOf .tableCell (row.flatMap (Prose.cellEvents around)) :=
  ⟨row.map fun cell => Inline.eventsOfList (cell.inlines { around with inTable := true }), by
    rw [List.flatMap_map]
    rfl⟩

private theorem shaped_row (around : Surroundings) (row : List Prose) :
    Shaped Tag.Holds (row.flatMap (Prose.cellEvents around)) :=
  .flatMap fun _ _ =>
    .element rfl (.of_admits rfl (by simp) (Inline.isInline_eventsOfList _))
      (Inline.shaped_eventsOfList _)

mutual

theorem Block.shaped_events (definitions : List Definition) (tight : Bool)
    (containers : List Container) (block : Block) :
    Shaped Tag.Holds (block.events definitions tight containers) := by
  cases block with
  | paragraph prose =>
      rw [Block.events]
      split
      · exact Inline.shaped_eventsOfList _
      · exact .element rfl (.of_admits rfl (by simp) trivial) (Inline.shaped_eventsOfList _)
  | heading level prose =>
      exact .element rfl (.of_admits rfl (by simp) (Inline.isInline_eventsOfList _))
        (Inline.shaped_eventsOfList _)
  | thematicBreak => exact .leaf rfl
  | code kind lines =>
      exact .element rfl (.of_admits rfl (by simp) ⟨lines, rfl⟩) (.map lines fun _ => rfl)
  | html lines => exact .element rfl (.of_admits rfl (by simp) trivial) (.map lines fun _ => rfl)
  | table alignments head rows =>
      let around : Surroundings := ⟨definitions, containers, true⟩
      refine .table (consistsOf_row around head) ?_ (shaped_row around head) ?_
      · exact ⟨rows.map fun row => row.flatMap (Prose.cellEvents around), by
          rw [List.flatMap_map]⟩
      · exact .flatMap fun row _ =>
          .element rfl (.of_admits rfl (by simp) (consistsOf_row around row))
            (shaped_row around row)
  | quote alert content =>
      exact .element rfl (.of_admits rfl (by simp) trivial)
        (Block.shaped_eventsOfList definitions false _ content)
  | list start tight items =>
      exact .element rfl (.of_admits rfl (by simp) trivial)
        (Block.shaped_eventsOfList definitions tight _ items)
  | item indent content =>
      exact .element rfl (.of_admits rfl (by simp) trivial)
        (Block.shaped_eventsOfList definitions tight _ content)
  | task checked => exact .leaf rfl

theorem Block.shaped_eventsOfList (definitions : List Definition) (tight : Bool)
    (containers : List Container) (blocks : List Block) :
    Shaped Tag.Holds (Block.eventsOfList definitions tight containers blocks) := by
  cases blocks with
  | nil => exact .nil
  | cons block blocks =>
      exact (Block.shaped_events definitions tight containers block).append
        (Block.shaped_eventsOfList definitions tight containers blocks)

end

theorem holds_read (text : Text) : Shaped Tag.Holds (read text) :=
  Block.shaped_eventsOfList _ false [] _

/-- Every Markdown text is read as a document of the shape of parsed ones. -/
theorem shaped_read (text : Text) : Shaped Tag.MayHold (read text) :=
  (holds_read text).mono And.left

/-- In particular, it is well nested. -/
theorem wellNested_read (text : Text) : WellNested (read text) :=
  (shaped_read text).wellNested Tag.MayHold.canHold

end Markdown

end DocSite
