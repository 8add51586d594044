import DocSite.Markdown.Margin

/-!
# Raw HTML in Markdown

What counts as a tag, a comment, a processing instruction, a declaration or a character data
section within a line, and which of them open a block of HTML. A function that looks for markup
answers with the number of characters that the markup takes.

Markup within a paragraph may run over several lines. Between the lines stand the marks of the
enclosing quotes and list items, which are no part of a tag; the argument `margin` says how many
characters they take at the start of a line.
-/

namespace DocSite.Markdown.RawHtml

/-! ## Tags -/

/-- What has been read of a tag. -/
structure Scan where
  /-- What follows. -/
  rest : Text
  /-- How many characters have been read, margins included. -/
  read : Nat
  /-- What has been read without the margins, latest character first. -/
  kept : Text

namespace Scan

/-- Reads some characters. -/
def take (count : Nat) (scan : Scan) : Scan :=
  { scan with
    rest := scan.rest.drop count
    read := scan.read + count
    kept := (scan.rest.take count).reverse ++ scan.kept }

/-- Reads the characters at the front that satisfy `p`. -/
def takeWhile (p : Char → Bool) (scan : Scan) : Scan :=
  scan.take (Text.countWhile p scan.rest)

/-- Leaves out a margin. -/
def leaveOut (count : Nat) (scan : Scan) : Scan :=
  { scan with
    rest := scan.rest.drop count
    read := scan.read + count }

/-- Reads a line end and leaves out the margin of the next line. Where lines may not be crossed,
`margin` is absent and there is no way on. -/
def crossLine (margin : Option (Text → Nat)) (scan : Scan) (lineEnd : Nat) : Option Scan :=
  margin.map fun width =>
    let crossed := scan.take lineEnd
    crossed.leaveOut (width crossed.rest)

/-- Reads white space, line ends included. The end of the text is no line end. -/
def space (margin : Option (Text → Nat)) : (fuel : Nat) → Scan → Option Scan
  | 0, scan => some scan
  | fuel + 1, scan =>
    match scan.rest with
    | [] => some scan
    | c :: _ =>
      if !isSpace c then some scan
      else match lineEnd? scan.rest with
        | some n => (scan.crossLine margin n).bind (space margin fuel)
        | none => space margin fuel (scan.take 1)

/-- Reads up to and with the quotation mark that closes an attribute value. -/
def quoted (margin : Option (Text → Nat)) (mark : Char) : (fuel : Nat) → Scan → Option Scan
  | 0, _ => none
  | fuel + 1, scan =>
    match scan.rest with
    | [] => none
    | c :: _ =>
      if c == mark then some (scan.take 1)
      else match lineEnd? scan.rest with
        | some n => (scan.crossLine margin n).bind (quoted margin mark fuel)
        | none => quoted margin mark fuel (scan.take 1)

/-- Whether a character can stand in an attribute value without quotation marks. -/
def isBareValueChar (c : Char) : Bool :=
  !(c == '\x27' || c == '\x22' || c == ' ' || c == '=' || c == '>' || c == '<' || c == '\x60' ||
    c == '\n' || c == '\r')

/-- Reads an attribute value. -/
def attributeValue (margin : Option (Text → Nat)) (scan : Scan) : Option Scan :=
  match scan.rest with
  | [] => none
  | c :: rest =>
    if c == '\x22' || c == '\x27' then quoted margin c (rest.length + 1) (scan.take 1)
    else if c == ' ' || c == '=' || c == '>' || c == '<' || c == '\x60' || c == '\n' ||
      c == '\r' then none
    else some (scan.takeWhile isBareValueChar)

/-- Whether a character can begin the name of an attribute. -/
def isNameStart (c : Char) : Bool :=
  Text.isAsciiLetter c || c == '_' || c == ':'

/-- Whether a character can stand in the name of an attribute. -/
def isNameChar (c : Char) : Bool :=
  Text.isAsciiAlphanumeric c || c == '_' || c == '.' || c == ':' || c == '-'

/-- Reads an attribute: a name, and a value if an equals sign follows. White space after a lone
name is left. -/
def nameAndValue (margin : Option (Text → Nat)) (scan : Scan) : Option Scan := do
  let first ← scan.rest.head?
  if !isNameStart first then none
  let name := (scan.take 1).takeWhile isNameChar
  let gap ← space margin (name.rest.length + 1) name
  match gap.rest with
  | '=' :: _ =>
    let sign := gap.take 1
    let value ← space margin (sign.rest.length + 1) sign
    attributeValue margin value
  | _ => some name

/-- Reads white space between attributes; the end of the text ends the tag without success. -/
def gap (margin : Option (Text → Nat)) : (fuel : Nat) → Scan → Option Scan
  | 0, _ => none
  | fuel + 1, scan =>
    let spaced := scan.takeWhile isLineSpace
    match lineEnd? spaced.rest with
    | some 0 => none
    | some n => (spaced.crossLine margin n).bind (gap margin fuel)
    | none => some spaced

/-- Reads attributes up to a slash or the closing bracket. Each has white space before it. -/
def attributes (margin : Option (Text → Nat)) : (fuel : Nat) → Scan → Option Scan
  | 0, _ => none
  | fuel + 1, scan => do
    let spaced ← gap margin (scan.rest.length + 1) scan
    match spaced.rest with
    | '/' :: _ | '>' :: _ => some spaced
    | _ =>
      if spaced.read == scan.read then none
      let next ← nameAndValue margin spaced
      attributes margin fuel next

end Scan

/-- A tag at the start of a text, which begins with its left angle bracket. -/
def tag? (margin : Option (Text → Nat)) (text : Text) : Option Scan := do
  let bracket : Scan := { rest := text.drop 1, read := 1, kept := text.take 1 }
  let closing := bracket.rest.head? == some '/'
  let slash := if closing then bracket.take 1 else bracket
  let first ← slash.rest.head?
  if !Text.isAsciiLetter first then none
  let name := slash.takeWhile fun c => Text.isAsciiAlphanumeric c || c == '-'
  let body ← if closing then some name else Scan.attributes margin (name.rest.length + 1) name
  let spaced := body.takeWhile isLineSpace
  let slashed :=
    if !closing && spaced.rest.head? == some '/' then spaced.take 1 else spaced
  match slashed.rest with
  | '>' :: _ => some (slashed.take 1)
  | _ => none

/-! ## Comments and their like -/

/-- The length of a text up to and with the first occurrence of `stop`. -/
def lengthThrough (stop : Text) : Text → Option Nat
  | [] => none
  | c :: rest =>
    if Text.startsWith (c :: rest) stop then some stop.length
    else (lengthThrough stop rest).map (· + 1)

/-- Markup that is no tag, from the character after the left angle bracket on: a comment, a
character data section, a declaration or a processing instruction. The second hyphen of a
comment's opening can be the first of its end. -/
def special? (text : Text) : Option Nat :=
  match text with
  | '!' :: '-' :: '-' :: rest => (lengthThrough "-->" ('-' :: '-' :: rest)).map (· + 1)
  | '!' :: '[' :: rest =>
    if Text.startsWith rest "CDATA[" then
      let body := rest.drop 6
      let before := Text.countWhile (· != ']') body
      let brackets := Text.countWhile (· == ']') (body.drop before)
      if brackets != 0 && (body.drop (before + brackets)).head? == some '>' then
        some (8 + before + brackets + 1)
      else none
    else none
  | '!' :: c :: rest =>
    if Text.isAsciiLetter c then (lengthThrough ">" rest).map (· + 2) else none
  | '?' :: rest => (lengthThrough "?>" rest).map (· + 1)
  | _ => none

/-! ## Blocks of HTML -/

/-- The elements that end with their own end tag, with that tag. -/
def verbatimElements : List (Text × Text) := [
  ("pre", "</pre>"), ("style", "</style>"), ("script", "</script>"), ("textarea", "</textarea>")]

/-- What ends the block of HTML whose opening bracket stands before this text, for the kinds of
block that end at a certain text and not at a blank line. -/
def blockStop? (text : Text) : Option Text :=
  let verbatim := verbatimElements.find? fun element =>
    Text.startsWithIgnoringCase text element.1 &&
      match text.drop element.1.length with
      | [] => true
      | c :: _ => isSpace c || c == '>'
  match verbatim with
  | some element => some element.2
  | none =>
    if Text.startsWith text "!--" then some "-->"
    else if Text.startsWith text "?" then some "?>"
    else if Text.startsWith text "![CDATA[" then some "]]>"
    else match text with
      | '!' :: c :: _ => if Text.isAsciiLetter c then some ">" else none
      | _ => none

/-- The elements whose tags open a block of HTML that lasts until a blank line. -/
def blockElements : List Text := ([
  "address", "article", "aside", "base", "basefont", "blockquote", "body", "caption", "center",
  "col", "colgroup", "dd", "details", "dialog", "dir", "div", "dl", "dt", "fieldset",
  "figcaption", "figure", "footer", "form", "frame", "frameset", "h1", "h2", "h3", "h4", "h5",
  "h6", "head", "header", "hr", "html", "iframe", "legend", "li", "link", "main", "menu",
  "menuitem", "nav", "noframes", "ol", "optgroup", "option", "p", "param", "search", "section",
  "summary", "table", "tbody", "td", "tfoot", "th", "thead", "title", "tr", "track", "ul"] : List String).map String.toList

/-- Whether the text after a left angle bracket goes on as the tag of a block element. -/
def opensBlock (text : Text) : Bool :=
  let body := if text.head? == some '/' then text.drop 1 else text
  let name := body.takeWhile Text.isAsciiAlphanumeric
  let rest := body.drop name.length
  blockElements.any (Text.equalsIgnoringCase name) &&
    match rest with
    | [] => true
    | c :: _ =>
      c == ' ' || c == '\t' || c == '\r' || c == '\n' || c == '>' || Text.startsWith rest "/>"

/-- Whether a line consists of one complete tag. -/
def isTagLine (text : Text) : Bool :=
  match tag? none text with
  | some scan => (blankLine? scan.rest).isSome
  | none => false

end DocSite.Markdown.RawHtml
