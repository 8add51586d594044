import DocSite.Markdown.Bracket

/-!
# Blocks

The block structure of a document, and the events of it once the definitions of the whole document
are known.
-/

namespace DocSite.Markdown

/-- A block of a document. -/
inductive Block
  | paragraph (prose : Prose)
  | heading (level : HeadingLevel) (prose : Prose)
  | thematicBreak
  /-- A code block, with one text for each of its lines or stretches of lines. -/
  | code (kind : CodeBlockKind) (lines : List Text)
  | html (lines : List Text)
  | table (alignments : List Alignment) (head : List Prose) (rows : List (List Prose))
  | quote (alert : Option Alert) (content : List Block)
  /-- A list; the paragraphs of a tight one are not marked as such. -/
  | list (start : Option Nat) (tight : Bool) (items : List Block)
  /-- A list item, with the columns that its lines are indented by. -/
  | item (indent : Nat) (content : List Block)
  /-- The box of a task list item that has no text. -/
  | task (checked : Bool)

/-- The events of one cell of a table. -/
def Prose.cellEvents (around : Surroundings) (cell : Prose) : List Event :=
  enclose .tableCell (Inline.eventsOfList (cell.inlines { around with inTable := true }))

mutual

/-- The events of a block inside some containers, outermost first. `tight` says that the block
stands directly in an item of a tight list. -/
def Block.events (definitions : List Definition) (tight : Bool) (containers : List Container) :
    Block → List Event
  | .paragraph prose =>
    let content := Inline.eventsOfList (prose.inlines ⟨definitions, containers, false⟩)
    if tight then content else enclose .paragraph content
  | .heading level prose =>
    enclose (.heading level none)
      (Inline.eventsOfList (prose.inlines ⟨definitions, containers, false⟩))
  | .thematicBreak => [.rule]
  | .code kind lines => enclose (.codeBlock kind) (lines.map .text)
  | .html lines => enclose .htmlBlock (lines.map .html)
  | .table alignments head rows =>
    let around : Surroundings := ⟨definitions, containers, true⟩
    enclose (.table alignments)
      (enclose .tableHead (head.flatMap (Prose.cellEvents around)) ++
        rows.flatMap fun row => enclose .tableRow (row.flatMap (Prose.cellEvents around)))
  | .quote alert content =>
    enclose (.blockQuote alert)
      (Block.eventsOfList definitions false (containers ++ [.quote alert]) content)
  | .list start tight items =>
    enclose (.list start) (Block.eventsOfList definitions tight containers items)
  | .item indent content =>
    enclose .item (Block.eventsOfList definitions tight (containers ++ [.item indent]) content)
  | .task checked => [.taskMarker checked]

/-- The events of blocks, one after the other. -/
def Block.eventsOfList (definitions : List Definition) (tight : Bool)
    (containers : List Container) : List Block → List Event
  | [] => []
  | block :: rest =>
    block.events definitions tight containers ++
      Block.eventsOfList definitions tight containers rest

end

end DocSite.Markdown
