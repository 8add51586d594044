import DocSite.Markdown.Block
import DocSite.Markdown.Reference

/-!
# Reading blocks

A document is read block by block. Between two blocks the reader knows the open containers, whether
the last line was blank, and the definitions so far. At each block it first looks how many of the
open containers the line goes on with, closes the others, opens new ones, and then reads what the
line starts.
-/

namespace DocSite.Markdown

/-- A place in the document. -/
structure Place where
  /-- The text from here on. -/
  rest : Text
  /-- How many characters come before. -/
  position : Nat

namespace Place

/-- The place some characters later. -/
def advance (count : Nat) (place : Place) : Place :=
  ⟨place.rest.drop count, place.position + count⟩

/-- The place up to which a margin that begins here has been read. -/
def after (place : Place) (margin : Margin) : Place :=
  ⟨margin.rest, place.position + margin.read⟩

/-- The text between two places. -/
def textUntil (start stop : Place) : Text :=
  start.rest.take (stop.position - start.position)

end Place

/-- An open container with the blocks that it holds so far, latest first. -/
structure OpenBlock where
  /-- The container. -/
  container : Container
  /-- Whether it is a list without blank lines between its items. -/
  tight : Bool := true
  /-- The blocks in it, latest first. -/
  content : List Block := []

/-- The block that a container becomes when it is closed. -/
def OpenBlock.toBlock (inner : OpenBlock) : Block :=
  match inner.container with
  | .quote alert => .quote alert inner.content.reverse
  | .list kind start =>
    .list (if kind == '.' || kind == ')' then some start else none) inner.tight
      inner.content.reverse
  | .item indent => .item indent inner.content.reverse

/-- What a reader knows between two blocks. -/
structure Reader where
  /-- The open containers, innermost first. -/
  nest : List OpenBlock := []
  /-- The blocks outside all containers, latest first. -/
  top : List Block := []
  /-- Whether the innermost item has begun with a blank line. -/
  itemBegun : Bool := false
  /-- Whether the last line was blank. -/
  afterBlank : Bool := false
  /-- The definitions so far, latest first. -/
  definitions : List Definition := []

namespace Reader

/-! ## Opening and closing -/

/-- The open containers, outermost first. -/
def containers (reader : Reader) : List Container :=
  (reader.nest.map (·.container)).reverse

/-- Adds a block to the innermost container. -/
def append (block : Block) (reader : Reader) : Reader :=
  match reader.nest with
  | [] => { reader with top := block :: reader.top }
  | inner :: outer =>
    { reader with nest := { inner with content := block :: inner.content } :: outer }

/-- Opens a container. -/
def enter (container : Container) (reader : Reader) : Reader :=
  { reader with nest := { container } :: reader.nest }

/-- Closes the innermost container. -/
def leave (reader : Reader) : Reader :=
  match reader.nest with
  | [] => reader
  | inner :: outer =>
    let tightList :=
      match inner.container with
      | .list _ _ => inner.tight
      | _ => false
    Reader.append inner.toBlock
      { reader with nest := outer, itemBegun := reader.itemBegun && !tightList }

/-- Closes some containers, innermost first. -/
def leaveMany : Nat → Reader → Reader
  | 0, reader => reader
  | count + 1, reader => leaveMany count reader.leave

/-- Closes the innermost item if it has begun with a blank line and another one followed. -/
def finishEmptyItem (reader : Reader) : Reader :=
  let closed :=
    match reader.nest with
    | ⟨.item _, _, _⟩ :: _ =>
      if reader.itemBegun && reader.afterBlank then reader.leave else reader
    | _ => reader
  { closed with itemBegun := false }

/-- Marks the list around the innermost item as loose. -/
def loosen (reader : Reader) : Reader :=
  match reader.nest with
  | inner :: outer :: rest =>
    match outer.container with
    | .list _ _ => { reader with nest := inner :: { outer with tight := false } :: rest }
    | _ => reader
  | _ => reader

/-- Gets ready for a block that is no list item: a list that stands open is closed, and a blank
line before the block makes the list around it loose. -/
def finishList (reader : Reader) : Reader :=
  let settled := reader.finishEmptyItem
  let closed :=
    match settled.nest with
    | ⟨.list _ _, _, _⟩ :: _ => settled.leave
    | _ => settled
  if closed.afterBlank then { closed.loosen with afterBlank := false } else closed

/-- Gets ready for a list item: goes on with the open list if the item's mark is of its kind, and
opens a list otherwise. -/
def continueList (kind : Char) (number : Nat) (reader : Reader) : Reader :=
  let settled := reader.finishEmptyItem
  let fresh (reader : Reader) : Reader :=
    { reader.enter (.list kind number) with afterBlank := false }
  match settled.nest with
  | [] => fresh settled
  | inner :: outer =>
    match inner.container with
    | .list openKind _ =>
      if openKind == kind then
        { settled with
          nest := { inner with tight := inner.tight && !settled.afterBlank } :: outer
          afterBlank := false }
      else fresh settled.finishList
    | _ => fresh settled.finishList

/-- Takes note of a blank line. An item that began with a blank line is over; the line still
belongs to its list. -/
def blank (reader : Reader) : Reader :=
  match reader.nest with
  | [] => { reader with afterBlank := true }
  | inner :: outer =>
    match inner.container with
    | .quote _ => reader
    | .item _ =>
      if reader.itemBegun then
        { reader with nest := { inner with container := .item 0 } :: outer, afterBlank := true }
      else { reader with afterBlank := true }
    | .list _ _ => { reader with afterBlank := true }

/-! ## Raw lines -/

/-- A raw line with its line end written as one line feed. -/
def rawLine (line : Text) : Text :=
  match line.reverse with
  | last :: '\r' :: before => if last.toNat < 128 then (last :: before).reverse else line
  | _ => line

/-- A raw line at a place, after some columns that were left of a tab. -/
def paddedLine (pending : Nat) (place : Place) : Text :=
  List.replicate pending ' ' ++ rawLine (place.rest.take (rawLineLength place.rest))

/-- The lines of a block of HTML and the place after it. The block ends with the line that has
`stop` in it, or before a blank line where there is no such text. -/
def htmlLines (containers : List Container) (stop : Option Text) :
    (fuel : Nat) → (pending : Nat) → Place → List Text × Place
  | 0, _, place => ([], place)
  | fuel + 1, pending, place =>
    let length := rawLineLength place.rest
    let line := paddedLine pending place
    let next := place.advance length
    let (resumed, margin) := Container.resumeAll containers (Margin.ofText next.rest)
    let isPast :=
      resumed < containers.length ||
        match stop with
        | some tag => Text.contains tag (place.rest.take length) || margin.rest.isEmpty
        | none => margin.atEnd || (blankLine? margin.rest).isSome
    if isPast then ([line], next)
    else
      let (lines, after) := htmlLines containers stop fuel margin.pending (next.after margin)
      (line :: lines, after)

/-- The lines of a fenced code block and the place after it. -/
def fencedLines (containers : List Container) (indent : Nat) (mark : Char) (count : Nat) :
    (fuel : Nat) → Place → List Text × Place
  | 0, place => ([], place)
  | fuel + 1, place =>
    let (resumed, resumedMargin) := Container.resumeAll containers (Margin.ofText place.rest)
    if resumed < containers.length then ([], place)
    else
      let margin := (resumedMargin.skipColumns indent).2
      let (missing, closing) := margin.skipColumns (4 - indent)
      match if missing == 0 then none else closingFence? mark count closing.rest with
      | some length =>
        let fence := (place.after closing).advance length
        ([], fence.advance ((blankLine? fence.rest).getD 0))
      | none =>
        let start := place.after margin
        let line := paddedLine margin.pending start
        let (lines, after) :=
          fencedLines containers indent mark count fuel (start.advance (rawLineLength start.rest))
        (line :: lines, after)

/-- What has been read of an indented code block. -/
structure IndentedScan where
  /-- The lines up to the last one that is not blank, latest first. -/
  kept : List Text
  /-- The blank lines after them, latest first. -/
  blank : List Text
  /-- Whether the last line was blank. -/
  afterBlank : Bool

/-- The lines of an indented code block, and the place after it. Blank lines at its end are no
part of it. -/
def indentedLines (containers : List Container) :
    (fuel : Nat) → (pending : Nat) → Place → IndentedScan → IndentedScan × Place
  | 0, _, place, scan => (scan, place)
  | fuel + 1, pending, place, scan =>
    let line := paddedLine pending place
    let scan : IndentedScan :=
      if scan.afterBlank then { scan with blank := line :: scan.blank }
      else { scan with kept := line :: (scan.blank ++ scan.kept), blank := [] }
    let next := place.advance (rawLineLength place.rest)
    let (resumed, resumedMargin) := Container.resumeAll containers (Margin.ofText next.rest)
    let (missing, margin) := resumedMargin.skipColumns 4
    if resumed < containers.length || !(missing == 0 || margin.atEnd) || margin.rest.isEmpty then
      (scan, next)
    else
      let afterBlank := (blankLine? margin.rest).isSome
      indentedLines containers fuel margin.pending (next.after margin) { scan with afterBlank }

/-! ## Headings -/

/-- The length of a heading's text without the number signs that close it. -/
def headingLength (content : Text) : Nat :=
  let trimmed := Text.dropEndWhile (fun c => c == '\n' || c == '\r' || c == ' ') content
  let body := Text.dropEndWhile (· == '#') trimmed
  if body.isEmpty then 0
  else
    let inner := Text.dropEndWhile (· == ' ') body
    if inner.length < body.length then inner.length else trimmed.length

/-- A heading that begins with number signs, from after these on. -/
def signedHeading (place : Place) : Prose × Place :=
  match lineEnd? place.rest with
  | some length => ({}, place.advance length)
  | none =>
    let start := place.advance (Text.countWhile isLineSpace place.rest)
    let (tokens, stop) := tokenizeLine false 0 start.rest []
    let tokens : List Token :=
      match stop.lineBreak with
      | some (.hard true breakStart breakStop) => ⟨.text, breakStart, breakStop⟩ :: tokens
      | _ => tokens
    let content := start.rest.take stop.position
    let length := headingLength content
    let tokens :=
      match tokens with
      | [] => []
      | last :: before => if length == 0 then [] else { last with stop := length } :: before
    ({ text := content, tokens := tokens.reverse }, start.advance stop.position)

/-! ## Tables -/

/-- The cells of a row, and the place after its line. -/
def rowCells : (fuel : Nat) → Place → List Prose × Place
  | 0, place => ([], place)
  | fuel + 1, place =>
    let cell := if place.rest.head? == some '|' then place.advance 1 else place
    let start := cell.advance (Text.countWhile isLineSpace cell.rest)
    match lineEnd? start.rest with
    | some length => ([], start.advance length)
    | none =>
      let (tokens, stop) := tokenizeLine true 0 start.rest []
      let prose : Prose :=
        { text := start.rest.take stop.position, tokens := tokens.reverse }
      let (cells, after) := rowCells fuel ⟨stop.rest, start.position + stop.position⟩
      (prose :: cells, after)

/-- Brings a row to the width of the table: missing cells are empty, excess ones are dropped. -/
def fitRow (width : Nat) (cells : List Prose) : List Prose :=
  cells.take width ++ List.replicate (width - cells.length) ({} : Prose)

/-- The rows of a table, and the place after it. -/
def tableRows (containers : List Container) (width : Nat) :
    (fuel : Nat) → Place → List (List Prose) × Place
  | 0, place => ([], place)
  | fuel + 1, place =>
    let (resumed, margin) := Container.resumeAll containers (Margin.ofText place.rest)
    let start := place.after margin.skipAll
    if resumed < containers.length || interruptsPlainly false start.rest then ([], place)
    else
      match rowCells (start.rest.length + 2) start with
      | ([], _) => ([], place)
      | (cells, next) =>
        let (rows, after) := tableRows containers width fuel next
        (fitRow width cells :: rows, after)

/-! ## Paragraphs -/

/-- What the lines of a paragraph turn out to be. -/
inductive ParagraphEnd
  | text (tokens : List Token) (next : Place)
  | heading (level : HeadingLevel) (tokens : List Token) (next : Place)

/-- Reads the lines of a paragraph that begins at `start`; `tokens` are those of the lines before
the present one, latest first. -/
def paragraphLines (containers : List Container) (start : Place) :
    (fuel : Nat) → Place → List Token → ParagraphEnd
  | 0, place, tokens => .text tokens place
  | fuel + 1, place, tokens =>
    let (tokens, stop) := tokenizeLine false (place.position - start.position) place.rest tokens
    let next : Place := ⟨stop.rest, start.position + stop.position⟩
    let ended :=
      match stop.lineBreak with
      | some (.hard true breakStart _) => ⟨.text, breakStart, breakStart + 1⟩ :: tokens
      | _ => tokens
    let (resumed, margin) := Container.resumeAll containers (Margin.ofText next.rest)
    let inside := resumed == containers.length
    let (missing, indented) := margin.skipColumns 4
    match if missing != 0 && inside then underline? indented.rest else none with
    | some (length, level) => .heading level ended ((next.after indented).advance length)
    | none =>
      let content := indented.skipAll
      if (missing != 0 && interrupts containers inside indented.rest) || content.atEnd then
        .text ended next
      else
        let tokens :=
          match stop.lineBreak with
          | some lineBreak => lineBreak.token :: tokens
          | none => tokens
        paragraphLines containers start fuel (next.after content) tokens

/-- Whether a line ends with an odd number of backslashes. -/
def endsInBackslash (text : Text) : Bool :=
  let line := text.takeWhile fun c => !(c == '\n' || c == '\r')
  (line.reverse.takeWhile (· == '\\')).length % 2 == 1

/-- Reads a paragraph, or the table or heading that it turns out to be. -/
def paragraph (task : Option Bool) (start : Place) (reader : Reader) : Reader × Place :=
  let containers := reader.containers
  let table := if endsInBackslash start.rest then none else tableStart? containers start.rest
  match table with
  | some (length, alignments) =>
    let width := alignments.length
    let head := (rowCells (start.rest.length + 2) start).1
    let (rows, next) :=
      tableRows containers width (start.rest.length + 1) (start.advance length)
    (reader.append (.table alignments (fitRow width head) rows), next)
  | none =>
    match paragraphLines containers start (start.rest.length + 1) start [] with
    | .text tokens next =>
      let prose : Prose := { text := start.textUntil next, tokens := tokens.reverse, task }
      (reader.append (.paragraph prose), next)
    | .heading level tokens next =>
      let prose : Prose := { text := start.textUntil next, tokens := tokens.reverse, task }
      (reader.append (.heading level prose), next)

/-- Reads definitions as long as there are any, and then the paragraph that follows them, if the
line after them goes on like one. -/
def definitionsAndParagraph : (fuel : Nat) → Place → Reader → Reader × Place
  | 0, place, reader => (reader, place)
  | fuel + 1, place, reader =>
    let containers := reader.containers
    match Reference.definition? containers place.rest with
    | none => reader.paragraph none place
    | some (length, definition) =>
      let reader := { reader with definitions := definition :: reader.definitions }
      let stop := place.advance length
      match blankLine? stop.rest with
      | none => (reader, stop)
      | some ending =>
        let next := stop.advance ending
        let (resumed, margin) := Container.resumeAll containers (Margin.ofText next.rest)
        let (missing, indented) := margin.skipColumns 4
        if missing != 0 &&
            interrupts containers (resumed == containers.length) indented.rest then
          (reader, next)
        else
          let content := indented.skipAll
          if content.atEnd then (reader, next)
          else definitionsAndParagraph fuel (next.after content) reader

/-! ## Blocks -/

/-- Reads the block that a line starts once its container marks have been read. -/
def leaf (line : Place) (margin : Margin) (reader : Reader) : Reader × Place :=
  match blankLine? margin.rest with
  | some length => (reader.blank, (line.after margin).advance length)
  | none =>
    let ready := reader.finishList
    let containers := ready.containers
    let (missing, indented) := margin.skipColumns 4
    let place := line.after indented
    let fuel := place.rest.length + 1
    if missing == 0 then
      let (scan, next) := indentedLines containers fuel indented.pending place ⟨[], [], false⟩
      (Reader.append (.code .indented scan.kept.reverse)
        { ready with afterBlank := scan.afterBlank }, next)
    else
      let indent := 4 - missing
      let html (stop : Option Text) : Reader × Place :=
        let (lines, next) := htmlLines containers stop fuel (max margin.pending indent) place
        (ready.append (.html lines), next)
      let stop :=
        if place.rest.head? == some '<' then RawHtml.blockStop? (place.rest.drop 1) else none
      if stop.isSome then html stop
      else if place.rest.head? == some '<' &&
          (RawHtml.opensBlock (place.rest.drop 1) || RawHtml.isTagLine place.rest) then html none
      else match thematicBreak? place.rest with
      | some length => (ready.append .thematicBreak, place.advance length)
      | none =>
        match headingMark? place.rest with
        | some level =>
          let (prose, next) := signedHeading (place.advance level.number)
          (ready.append (.heading level prose), next)
        | none =>
          match fence? place.rest with
          | some (count, mark) =>
            let afterFence := place.advance count
            let start := afterFence.advance (Text.countWhile isLineSpace afterFence.rest)
            let length := rawLineLength start.rest
            let info := Text.dropEndWhile isSpace (start.rest.take length)
            let (lines, next) :=
              fencedLines containers indent mark count fuel (start.advance length)
            (ready.append (.code (.fenced (unescape false 0 info)) lines), next)
          | none => definitionsAndParagraph fuel place ready

/-- What remains after the marks of new containers have been read. -/
inductive Opening
  /-- The line has content. -/
  | content (line : Place) (margin : Margin) (reader : Reader)
  /-- The line is done with. -/
  | done (next : Place) (reader : Reader)

/-- Opens the containers whose marks stand at the start of a line. -/
def openContainers (line : Place) : (fuel : Nat) → Margin → Reader → Opening
  | 0, margin, reader => .content line margin reader
  | fuel + 1, margin, reader =>
    let (missing, indented) := margin.skipColumns 4
    if missing == 0 then .content line margin reader
    else match indented.itemMark? (4 - missing) with
    | some (kind, number, indent, after) =>
      let reader := (reader.continueList kind number).enter (.item indent)
      match blankLine? after.rest with
      | some length =>
        .done ((line.after after).advance length) { reader with itemBegun := true }
      | none =>
        match after.taskMark? with
        | none => openContainers line fuel after reader
        | some (checked, boxed) =>
          match blankLine? boxed.rest with
          | some length =>
            .done ((line.after boxed).advance length)
              { reader.append (.task checked) with itemBegun := true }
          | none =>
            let (reader, next) := reader.paragraph (some checked) (line.after boxed.skipAll)
            .done next reader
    | none =>
      match indented.quoteMark? with
      | none => .content line margin reader
      | some after =>
        match after.alertMark? with
        | none => openContainers line fuel after (reader.finishList.enter (.quote none))
        | some (alert, ended) =>
          let reader := reader.finishList.enter (.quote (some alert))
          let next := line.after ended
          let containers := reader.containers
          let (resumed, resumedMargin) :=
            Container.resumeAll containers (Margin.ofText next.rest)
          let (missing, spaced) := resumedMargin.skipColumns 4
          if missing != 0 && interrupts containers (resumed == containers.length) spaced.rest then
            .done next reader
          else .content next spaced.skipAll reader

/-- Reads one block, or one line that opens or closes containers. -/
def step (line : Place) (reader : Reader) : Reader × Place :=
  let containers := reader.containers
  let (resumed, margin) := Container.resumeAll containers (Margin.ofText line.rest)
  let reader := reader.leaveMany (containers.length - resumed)
  match openContainers line (line.rest.length + 1) margin reader with
  | .done next reader => (reader, next)
  | .content line margin reader => reader.leaf line margin

/-- Reads all blocks. Every step reads at least one character. -/
def run : (fuel : Nat) → Place → Reader → Reader
  | 0, _, reader => reader
  | fuel + 1, place, reader =>
    if place.rest.isEmpty then reader
    else
      let (reader, next) := reader.step place
      run fuel next reader

end Reader

/-- The events of a Markdown text, with raw HTML as markup. -/
def read (text : Text) : List Event :=
  let finished := Reader.run text.length ⟨text, 0⟩ {}
  let closed := finished.leaveMany finished.nest.length
  Block.eventsOfList closed.definitions.reverse false [] closed.top.reverse

end DocSite.Markdown
