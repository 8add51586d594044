import DocSite.Markdown.LineStart

/-!
# Containers

Block quotes, lists and list items enclose other blocks. A line belongs to a container as long as
it goes on with that container's mark: a quote's angle bracket, an item's indentation.
-/

namespace DocSite.Markdown

/-- An open block that encloses other blocks. -/
inductive Container
  /-- A block quote, which may be a call-out. -/
  | quote (alert : Option Alert)
  /-- A list, with the character that its marks share and the number of its first item. -/
  | list (kind : Char) (start : Nat)
  /-- A list item, with the columns that its lines are indented by. -/
  | item (indent : Nat)

namespace Container

/-- Reads the mark by which a line goes on with this container. A blank line goes on with any
list item. -/
def resume? (container : Container) (margin : Margin) : Option Margin :=
  match container with
  | .quote _ => (margin.skipColumns 3).2.quoteMark?
  | .list _ _ => some margin
  | .item indent =>
    let (missing, spaced) := margin.skipColumns indent
    if missing == 0 || spaced.atEnd then some spaced else none

/-- Reads the marks of the containers, outermost first, as far as the line goes on with them. The
first part says how many that are. -/
def resumeAll : List Container → Margin → Nat × Margin
  | [], margin => (0, margin)
  | container :: inner, margin =>
    match container.resume? margin with
    | none => (0, margin)
    | some next =>
      let (count, after) := resumeAll inner next
      (count + 1, after)

/-- The width of the marks at the start of a line, as far as it goes on with the containers. -/
def marginWidth (containers : List Container) (text : Text) : Nat :=
  (resumeAll containers (Margin.ofText text)).2.read

end Container

/-! ## The end of a paragraph -/

/-- Whether a line, read up to this text, ends the paragraph before it for a reason other than a
table. `inside` says that the line goes on with all open containers; only then an empty item or
one that does not start a list at one is taken for text. -/
def interruptsPlainly (inside : Bool) (text : Text) : Bool :=
  (lineEnd? text).isSome || (thematicBreak? text).isSome || (headingMark? text).isSome ||
    (fence? text).isSome || text.head? == some '>' ||
    (match itemMark? text with
      | none => false
      | some (length, kind, number) =>
        !inside ||
          ((kind == '*' || kind == '-' || kind == '+' || number == 1) &&
            (blankLine? (text.drop length)).isNone)) ||
    (match text with
      | '<' :: rest => (RawHtml.blockStop? rest).isSome || RawHtml.opensBlock rest
      | _ => false)

/-- The alignments of the table whose head is the line at the start of a text, if the next line,
which has to go on with all containers, delimits as many columns. The first part is the number of
characters of the two lines. -/
def tableStart? (containers : List Container) (text : Text) : Option (Nat × List Alignment) := do
  let columns ← headColumns? text
  let line := text.takeWhile fun c => !(c == '\n' || c == '\r')
  let ending ← lineEnd? (text.drop line.length)
  if ending == 0 then none
  let next := text.drop (line.length + ending)
  let (resumed, margin) := Container.resumeAll containers (Margin.ofText next)
  if resumed != containers.length then none
  let (length, alignments) ← delimiterRow? margin.rest
  if alignments.length != columns then none
  some (line.length + ending + margin.read + length, alignments)

/-- Whether a line, read up to this text, ends the paragraph before it. A table does if its head
begins with a bar. -/
def interrupts (containers : List Container) (inside : Bool) (text : Text) : Bool :=
  interruptsPlainly inside text ||
    (text.head? == some '|' && (tableStart? containers text).isSome)

end DocSite.Markdown
