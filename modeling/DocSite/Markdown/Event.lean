import DocSite.Text.Basic

/-!
# Document events

A document is a list of events: elements open and close, and between them stand texts, breaks and
rules. The list need not be balanced; every function on documents says what it does with any list.
-/

namespace DocSite

/-- The level of a heading. -/
inductive HeadingLevel
  | h1 | h2 | h3 | h4 | h5 | h6
  deriving DecidableEq, Repr

namespace HeadingLevel

/-- The level as a number from one to six. -/
def number : HeadingLevel → Nat
  | h1 => 1
  | h2 => 2
  | h3 => 3
  | h4 => 4
  | h5 => 5
  | h6 => 6

/-- The level with a given number. -/
def ofNumber? : Nat → Option HeadingLevel
  | 1 => some h1
  | 2 => some h2
  | 3 => some h3
  | 4 => some h4
  | 5 => some h5
  | 6 => some h6
  | _ => none

end HeadingLevel

/-- The kinds of call-out that a block quote can be. -/
inductive Alert
  | note | tip | important | warning | caution
  deriving DecidableEq, Repr

/-- How the cells of a table column are aligned. -/
inductive Alignment
  | none | left | center | right
  deriving DecidableEq, Repr

/-- What opens a code block. -/
inductive CodeBlockKind
  /-- A block whose lines are indented. -/
  | indented
  /-- A block between fences, with the text after the opening fence. -/
  | fenced (info : Text)
  deriving DecidableEq, Repr

/-- An element that opens, with all that is known about it there. -/
inductive Tag
  | paragraph
  | heading (level : HeadingLevel) (id : Option Text)
  | blockQuote (alert : Option Alert)
  | codeBlock (kind : CodeBlockKind)
  | htmlBlock
  /-- An ordered list has the number of its first item. -/
  | list (start : Option Nat)
  | item
  | footnoteDefinition (label : Text)
  | definitionList
  | definitionTitle
  | definitionBody
  | table (alignments : List Alignment)
  | tableHead
  | tableRow
  | tableCell
  | emphasis
  | strong
  | strikethrough
  | superscript
  | subscript
  | link (destination title : Text)
  | image (destination title : Text)
  | metadataBlock
  deriving DecidableEq, Repr

/-- An element that closes, with what has to be known to close it. -/
inductive TagEnd
  | paragraph
  | heading (level : HeadingLevel)
  | blockQuote (alert : Option Alert)
  | codeBlock
  | htmlBlock
  | list (ordered : Bool)
  | item
  | footnoteDefinition
  | definitionList
  | definitionTitle
  | definitionBody
  | table
  | tableHead
  | tableRow
  | tableCell
  | emphasis
  | strong
  | strikethrough
  | superscript
  | subscript
  | link
  | image
  | metadataBlock
  deriving DecidableEq, Repr

/-- The end that closes an element. -/
def Tag.toEnd : Tag → TagEnd
  | .paragraph => .paragraph
  | .heading level _ => .heading level
  | .blockQuote alert => .blockQuote alert
  | .codeBlock _ => .codeBlock
  | .htmlBlock => .htmlBlock
  | .list start => .list start.isSome
  | .item => .item
  | .footnoteDefinition _ => .footnoteDefinition
  | .definitionList => .definitionList
  | .definitionTitle => .definitionTitle
  | .definitionBody => .definitionBody
  | .table _ => .table
  | .tableHead => .tableHead
  | .tableRow => .tableRow
  | .tableCell => .tableCell
  | .emphasis => .emphasis
  | .strong => .strong
  | .strikethrough => .strikethrough
  | .superscript => .superscript
  | .subscript => .subscript
  | .link _ _ => .link
  | .image _ _ => .image
  | .metadataBlock => .metadataBlock

/-- One step through a document. -/
inductive Event
  /-- An element opens. -/
  | start (tag : Tag)
  /-- An element closes. -/
  | finish (tag : TagEnd)
  /-- Text, to be escaped where it is written. -/
  | text (content : Text)
  /-- Inline code. -/
  | code (content : Text)
  /-- Markup, to be written as it is. -/
  | html (markup : Text)
  /-- Markup within a line, to be written as it is. -/
  | inlineHtml (markup : Text)
  | inlineMath (content : Text)
  | displayMath (content : Text)
  | footnoteReference (label : Text)
  | softBreak
  | hardBreak
  | rule
  /-- The box of a task list item. -/
  | taskMarker (checked : Bool)
  deriving DecidableEq, Repr

end DocSite
