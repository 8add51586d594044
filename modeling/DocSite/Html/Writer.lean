import DocSite.Html.Piece
import DocSite.Markdown.Event
import DocSite.Text.Blank

/-!
# Writing documents as HTML

The writer takes the events of a document one after the other. What it has to remember between
them is its state: the code block and the image that it is inside of, where it is in a table, and
which block quotes are open. An image writes nothing until it is over, because all that is inside
becomes its alternative text; a code block writes nothing until its end either.
-/

namespace DocSite.Html

/-! ## Links -/

/-- The schemes of addresses that are not written. -/
def blockedSchemes : List Text :=
  ["javascript:".toList, "vbscript:".toList, "data:".toList]

/-- An address as it is written: a number sign in the place of one whose scheme is blocked. Blank
characters at the start and the case of ASCII letters make no difference to that. -/
def safeAddress (address : Text) : Text :=
  let lower := (Text.trimStart address).map Text.asciiLower
  if blockedSchemes.any (Text.startsWith lower) then "#" else address

/-- The title attribute, if there is a title. -/
def titleAttribute (title : Text) : List Attribute :=
  if title.isEmpty then [] else [.of "title" title]

/-! ## State -/

/-- A code block that has been opened. -/
structure OpenCode where
  /-- The language that the block names. -/
  language : Option Text
  /-- The text so far. -/
  text : Text := []
  deriving DecidableEq, Repr

/-- A place in a table. -/
structure TableCursor where
  /-- The alignments of the columns. -/
  alignments : List Alignment := []
  /-- Whether the place is in the table's head. -/
  inHead : Bool := false
  /-- The number of cells before it in its row. -/
  column : Nat := 0
  deriving DecidableEq, Repr

/-- What the writer remembers. -/
structure Writer where
  /-- The code block that is open. -/
  code : Option OpenCode := none
  /-- The place in the table. -/
  table : TableCursor := {}
  /-- How many images are open inside one another. -/
  imageDepth : Nat := 0
  /-- The alternative text of the outermost one so far. -/
  altText : Text := []
  /-- The address and the title of the outermost one. -/
  pendingImage : Option (Text × Text) := none
  /-- The block quotes that are open, innermost first. -/
  quotes : List (Option Alert) := []
  deriving DecidableEq, Repr

/-! ## Elements -/

/-- The name of a heading element. -/
def headingName (level : HeadingLevel) : Text :=
  'h' :: Text.ofNat level.number

/-- The class of a call-out, and its title. -/
def alertLabel : Alert → Text × Text
  | .note => ("note", "Note")
  | .tip => ("tip", "Tip")
  | .important => ("important", "Important")
  | .warning => ("warning", "Warning")
  | .caution => ("caution", "Caution")

/-- The pieces that open a call-out. -/
def alertStart (alert : Alert) : List Piece :=
  let (name, title) := alertLabel alert
  [.startTag "div" [.of "class" ("alert alert-".toList ++ name)],
    .startTag "p" [.of "class" "alert-title"], .text title, .endTag "p"]

/-- The language that the text after a fence names: its first word. -/
def fenceLanguage? (info : Text) : Option Text :=
  (Text.words info).head?

/-- The language of a code block, if it names one. -/
def codeLanguage? : CodeBlockKind → Option Text
  | .indented => none
  | .fenced info => fenceLanguage? info

/-- A code block as it is written. -/
def codePieces (code : OpenCode) : List Piece :=
  let attributes :=
    match code.language with
    | some language => [Attribute.of "class" ("language-".toList ++ language)]
    | none => []
  [.startTag "pre" [], .startTag "code" attributes, .text code.text, .endTag "code",
    .endTag "pre"]

/-- An image as it is written. -/
def imagePiece (source alt title : Text) : Piece :=
  .startTag "img"
    ([.of "src" (safeAddress source), .of "alt" alt] ++ titleAttribute title)

/-- The box of a task list item. -/
def taskPieces (checked : Bool) : List Piece :=
  [.startTag "input"
      ([.of "type" "checkbox", .flag "disabled"] ++ if checked then [.flag "checked"] else []),
    .text " "]

namespace TableCursor

/-- The name of a cell element. -/
def cellName (cursor : TableCursor) : Text :=
  if cursor.inHead then "th" else "td"

/-- The style of a cell, which is that of its column. -/
def cellStyle (cursor : TableCursor) : List Attribute :=
  match cursor.alignments[cursor.column]? with
  | some .left => [.of "style" "text-align:left"]
  | some .center => [.of "style" "text-align:center"]
  | some .right => [.of "style" "text-align:right"]
  | some .none => []
  | none => []

end TableCursor

namespace Writer

/-- Whether an image is open. -/
def inImage (writer : Writer) : Bool :=
  writer.imageDepth != 0

/-- Markup within a line is left out inside an image. -/
def inlineMarkup (writer : Writer) (pieces : List Piece) : List Piece :=
  if writer.inImage then [] else pieces

/-- Adds to the alternative text of the open image. -/
def addAlt (writer : Writer) (text : Text) : Writer :=
  { writer with altText := writer.altText ++ text }

/-- What the start of an element changes and writes. -/
def startTag (writer : Writer) : Tag → Writer × List Piece
  | .paragraph => (writer, [.startTag "p" []])
  | .heading level id =>
    let attributes :=
      match id with
      | some id => [Attribute.of "id" id]
      | none => []
    (writer, [.startTag (headingName level) attributes])
  | .blockQuote alert =>
    ({ writer with quotes := alert :: writer.quotes },
      match alert with
      | some alert => alertStart alert
      | none => [.startTag "blockquote" []])
  | .codeBlock kind => ({ writer with code := some { language := codeLanguage? kind } }, [])
  | .list none => (writer, [.startTag "ul" []])
  | .list (some start) =>
    (writer,
      [.startTag "ol" (if start == 1 then [] else [.of "start" (Text.ofNat start)])])
  | .item => (writer, [.startTag "li" []])
  | .footnoteDefinition _ | .htmlBlock | .metadataBlock => (writer, [])
  | .definitionList => (writer, [.startTag "dl" []])
  | .definitionTitle => (writer, [.startTag "dt" []])
  | .definitionBody => (writer, [.startTag "dd" []])
  | .table alignments => ({ writer with table := { alignments } }, [.startTag "table" []])
  | .tableHead =>
    ({ writer with table := { writer.table with inHead := true, column := 0 } },
      [.startTag "thead" [], .startTag "tr" []])
  | .tableRow =>
    ({ writer with table := { writer.table with column := 0 } }, [.startTag "tr" []])
  | .tableCell => (writer, [.startTag writer.table.cellName writer.table.cellStyle])
  | .emphasis => (writer, writer.inlineMarkup [.startTag "em" []])
  | .strong => (writer, writer.inlineMarkup [.startTag "strong" []])
  | .strikethrough => (writer, writer.inlineMarkup [.startTag "del" []])
  | .superscript => (writer, writer.inlineMarkup [.startTag "sup" []])
  | .subscript => (writer, writer.inlineMarkup [.startTag "sub" []])
  | .link destination title =>
    (writer, writer.inlineMarkup
      [.startTag "a" (.of "href" (safeAddress destination) :: titleAttribute title)])
  | .image destination title =>
    if writer.inImage then ({ writer with imageDepth := writer.imageDepth + 1 }, [])
    else
      ({ writer with
          imageDepth := 1
          altText := []
          pendingImage := some (destination, title) }, [])

/-- What the end of an element changes and writes. -/
def endTag (writer : Writer) : TagEnd → Writer × List Piece
  | .paragraph => (writer, [.endTag "p"])
  | .heading level => (writer, [.endTag (headingName level)])
  | .blockQuote _ =>
    match writer.quotes with
    | some _ :: outer => ({ writer with quotes := outer }, [.endTag "div"])
    | none :: outer => ({ writer with quotes := outer }, [.endTag "blockquote"])
    | [] => (writer, [.endTag "blockquote"])
  | .codeBlock =>
    match writer.code with
    | some code => ({ writer with code := none }, codePieces code)
    | none => (writer, [])
  | .list ordered => (writer, [.endTag (if ordered then "ol" else "ul")])
  | .item => (writer, [.endTag "li"])
  | .footnoteDefinition | .htmlBlock | .metadataBlock => (writer, [])
  | .definitionList => (writer, [.endTag "dl"])
  | .definitionTitle => (writer, [.endTag "dt"])
  | .definitionBody => (writer, [.endTag "dd"])
  | .table => (writer, [.endTag "tbody", .endTag "table"])
  | .tableHead =>
    ({ writer with table := { writer.table with inHead := false } },
      [.endTag "tr", .endTag "thead", .startTag "tbody" []])
  | .tableRow => (writer, [.endTag "tr"])
  | .tableCell =>
    ({ writer with table := { writer.table with column := writer.table.column + 1 } },
      [.endTag writer.table.cellName])
  | .emphasis => (writer, writer.inlineMarkup [.endTag "em"])
  | .strong => (writer, writer.inlineMarkup [.endTag "strong"])
  | .strikethrough => (writer, writer.inlineMarkup [.endTag "del"])
  | .superscript => (writer, writer.inlineMarkup [.endTag "sup"])
  | .subscript => (writer, writer.inlineMarkup [.endTag "sub"])
  | .link => (writer, writer.inlineMarkup [.endTag "a"])
  | .image =>
    let closed := { writer with imageDepth := writer.imageDepth - 1 }
    if closed.inImage then (closed, [])
    else
      ({ closed with altText := [], pendingImage := none },
        match writer.pendingImage with
        | some (source, title) => [imagePiece source writer.altText title]
        | none => [])

/-- What one event changes and writes. -/
def step (writer : Writer) : Event → Writer × List Piece
  | .start tag => writer.startTag tag
  | .finish tag => writer.endTag tag
  | .text content =>
    match writer.code with
    | some code => ({ writer with code := some { code with text := code.text ++ content } }, [])
    | none => if writer.inImage then (writer.addAlt content, []) else (writer, [.text content])
  | .code content =>
    if writer.inImage then (writer.addAlt content, [])
    else (writer, [.startTag "code" [], .text content, .endTag "code"])
  | .html markup | .inlineHtml markup => (writer, [.markup markup])
  | .softBreak => if writer.inImage then (writer.addAlt " ", []) else (writer, [.text "\n"])
  | .hardBreak => (writer, [.startTag "br" []])
  | .rule => (writer, [.startTag "hr" []])
  | .taskMarker checked => (writer, taskPieces checked)
  | .footnoteReference _ | .inlineMath _ | .displayMath _ => (writer, [])

/-- What a list of events changes and writes. -/
def run : Writer → List Event → Writer × List Piece
  | writer, [] => (writer, [])
  | writer, event :: rest =>
    let (next, pieces) := writer.step event
    let (last, more) := next.run rest
    (last, pieces ++ more)

/-- Writes a list of events; the first part is the writer for the events that follow them. -/
def render (writer : Writer) (events : List Event) : Writer × Text :=
  let (last, pieces) := writer.run events
  (last, Piece.writeAll pieces)

/-- Writes lists of events one after the other with one writer. -/
def renderAll : Writer → List (List Event) → List Text
  | _, [] => []
  | writer, events :: rest =>
    let (next, written) := writer.render events
    written :: next.renderAll rest

end Writer

/-- Writes the events of a document. -/
def render (events : List Event) : Text :=
  ((({} : Writer).render events).2)

end DocSite.Html
