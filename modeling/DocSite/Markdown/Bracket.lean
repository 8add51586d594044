import DocSite.Markdown.Token
import DocSite.Markdown.Emphasis
import DocSite.Text.CaseFolding

/-!
# Links, images, code and markup within text

The tokens of a block are read from left to right. Code and raw markup bind first; a right bracket
looks back for the bracket that it closes and ahead for a destination or a label.
-/

namespace DocSite.Markdown

/-- What a label refers to. -/
structure Definition where
  /-- The label with letter case folded. -/
  label : Text
  /-- The destination of the links that use the label. -/
  destination : Text
  /-- Their title. -/
  title : Text

/-- The definition that a label refers to: the first one whose label is equal up to letter
case. -/
def findDefinition (definitions : List Definition) (label : Text) : Option Definition :=
  definitions.find? fun definition => definition.label == Text.fold label

/-- Running text of a block that has been cut into tokens. -/
structure Prose where
  /-- The text of the block from its first character to its end. -/
  text : Text := []
  /-- The tokens, in order. -/
  tokens : List Token := []
  /-- The box of a task list item at the front. -/
  task : Option Bool := none

/-- What is known about the surroundings of running text. -/
structure Surroundings where
  /-- The definitions of the whole document. -/
  definitions : List Definition
  /-- The containers around the text, outermost first. -/
  containers : List Container
  /-- Whether the text stands in a cell of a table. -/
  inTable : Bool

/-- The width of the container marks at the start of a line. -/
def Surroundings.margin (around : Surroundings) (text : Text) : Nat :=
  Container.marginWidth around.containers text

/-- A token together with the block's text from its first character on. -/
structure Located where
  /-- The token. -/
  token : Token
  /-- The block's text from the token's start on. -/
  rest : Text

namespace Located

/-- The text of the token. -/
def written (located : Located) : Text :=
  located.rest.take (located.token.stop - located.token.start)

/-- The block's text after the token. -/
def after (located : Located) : Text :=
  located.rest.drop (located.token.stop - located.token.start)

/-- Puts each token together with its text, given the block's text from a position on. -/
def locate (position : Nat) (text : Text) : List Token → List Located
  | [] => []
  | token :: tokens =>
    let rest := text.drop (token.start - position)
    ⟨token, rest⟩ :: locate token.start rest tokens

/-- Drops the tokens that stop at or before a position. -/
def dropThrough (position : Nat) (tokens : List Located) : List Located :=
  tokens.dropWhile fun located => located.token.stop ≤ position

/-- The tokens that are left when the text up to a position has been used. A token that straddles
the position loses its beginning. -/
def resumeAt (position : Nat) (tokens : List Located) : List Located :=
  match dropThrough position tokens with
  | [] => []
  | located :: rest =>
    if located.token.start < position then
      { token := { located.token with start := position }
        rest := located.rest.drop (position - located.token.start) } :: rest
    else located :: rest

end Located

/-! ## Inline code -/

/-- The text between two runs of grave accents: a line end, with the container marks and the white
space that begin the next line, becomes a space, and in a table a bar needs no backslash. -/
def codeLines (around : Surroundings) : (skip : Nat) → Text → Text
  | _, [] => []
  | skip + 1, _ :: rest => codeLines around skip rest
  | 0, c :: rest =>
    if c == '\n' || c == '\r' then
      let ending := if c == '\r' && rest.head? == some '\n' then 1 else 0
      let next := rest.drop ending
      let margin := around.margin next
      let space := Text.countWhile isLineSpace (next.drop margin)
      ' ' :: codeLines around (ending + margin + space) rest
    else if c == '\\' && around.inTable && rest.head? == some '|' then
      '|' :: codeLines around 1 rest
    else c :: codeLines around 0 rest
termination_by structural _ text => text

/-- The content of inline code. One space at both ends is dropped unless there is nothing else. -/
def codeContent (around : Surroundings) (between : Text) : Text :=
  let content := codeLines around 0 between
  if content.head? == some ' ' && content.getLast? == some ' ' && content.any (· != ' ') then
    (content.drop 1).dropLast
  else content

/-- The first run of a given number of grave accents, with the tokens after it. -/
def findTicks (count : Nat) : List Located → Option (Located × List Located)
  | [] => none
  | located :: rest =>
    match located.token.kind with
    | .ticks n _ => if n == count then some (located, rest) else findTicks count rest
    | _ => findTicks count rest

/-! ## Titles and destinations -/

/-- The title of a link after its opening mark: how many characters it takes up to and with its
closing mark, and its text. A line end is kept and what begins the next line is left out, up to
the next of `tokens`. -/
def titleRest (inTable : Bool) (opening closing : Char) :
    (fuel : Nat) → (position : Nat) → List Located → Text → Option (Nat × Text)
  | 0, _, _, _ => none
  | fuel + 1, position, tokens, text =>
    match text with
    | [] => none
    | c :: rest =>
      let keep (length : Nat) (image : Text) :=
        (titleRest inTable opening closing fuel (position + length) tokens
          (text.drop length)).map fun found => (found.1 + length, image ++ found.2)
      if c == closing then some (1, [])
      else if c == opening then none
      else if c == '\n' || c == '\r' then
        let tokens := Located.dropThrough (position + 1) tokens
        match tokens with
        | located :: _ =>
          if located.token.start > position then
            keep (located.token.start - position) ['\n']
          else keep 1 [c]
        | [] => keep 1 [c]
      else if c == '&' then
        match Html.characterReference? text with
        | some (length, image) => keep length image
        | none => keep 1 [c]
      else if c == '\\' then
        match rest with
        | '\\' :: '|' :: _ => if inTable then keep 3 ['|'] else keep 2 ['\\']
        | next :: _ => if Text.isAsciiPunctuation next then keep 2 [next] else keep 1 [c]
        | [] => keep 1 [c]
      else keep 1 [c]

/-- A title at a position, if one begins there. -/
def title? (inTable : Bool) (position : Nat) (tokens : List Located) (text : Text) :
    Option (Nat × Text) :=
  match text with
  | [] => none
  | opening :: rest =>
    if opening == '\x27' || opening == '\x22' || opening == '(' then
      let closing := if opening == '(' then ')' else opening
      (titleRest inTable opening closing text.length (position + 1) tokens rest).map fun found =>
        (found.1 + 1, found.2)
    else none

/-- The length of the white space between the parts of a link, in which one line may end. -/
def separatorLength (around : Surroundings) (text : Text) : Nat :=
  let space := Text.countWhile isLineSpace text
  let rest := text.drop space
  let crossed :=
    match lineEnd? rest with
    | some n => n + around.margin (rest.drop n)
    | none => 0
  space + crossed + Text.countWhile isLineSpace (rest.drop crossed)

/-- What follows a right bracket when the destination stands in parentheses: the position after
it, the destination and the title. -/
def inlineTarget? (around : Surroundings) (position : Nat) (tokens : List Located) (text : Text) :
    Option (Nat × Text × Text) := do
  if text.head? != some '(' then none
  let afterOpen := 1 + separatorLength around (text.drop 1)
  let (length, raw) ← Link.destination? (text.drop afterOpen)
  let afterDestination := afterOpen + length
  let titleStart := afterDestination + separatorLength around (text.drop afterDestination)
  let (afterTitle, title) :=
    match title? around.inTable (position + titleStart) tokens (text.drop titleStart) with
    | some (length, title) =>
      let stop := titleStart + length
      (stop + separatorLength around (text.drop stop), title)
    | none => (titleStart, [])
  if (text.drop afterTitle).head? != some ')' then none
  some (position + afterTitle + 1, unescape around.inTable 0 raw, title)

/-! ## Reading the tokens -/

/-- What an open bracket may become. -/
inductive BracketKind
  | link
  | image
  /-- A bracket around a link, which cannot become another link. -/
  | disabled
  deriving DecidableEq

/-- An open bracket. -/
structure OpenBracket where
  /-- What it may become. -/
  kind : BracketKind
  /-- The bracket. -/
  opening : Located
  /-- What came before it, latest part first. -/
  before : List Part

/-- The tokens of a block while they are read. -/
structure BracketScan where
  /-- The open brackets, latest first. -/
  brackets : List OpenBracket := []
  /-- What came after the latest one, latest part first. -/
  parts : List Part := []

namespace BracketScan

/-- Adds a part. -/
def push (part : Part) (scan : BracketScan) : BracketScan :=
  { scan with parts := part :: scan.parts }

/-- Adds a text. -/
def pushText (text : Text) (scan : BracketScan) : BracketScan :=
  scan.push (.done (.text text))

/-- What a bracket and all that came after it amount to as text, latest part first. -/
def asText (bracket : OpenBracket) (parts : List Part) : List Part :=
  parts ++ .done (.text bracket.opening.written) :: bracket.before

/-- All parts, brackets that were never closed being text, latest part first. -/
def flatten : List OpenBracket → List Part → List Part
  | [], parts => parts
  | bracket :: outer, parts => flatten outer (asText bracket parts)

/-- After a link has been made, no bracket around it can become a link. -/
def disableLinks (brackets : List OpenBracket) : List OpenBracket :=
  brackets.map fun bracket =>
    if bracket.kind = .link then { bracket with kind := .disabled } else bracket

/-- Makes the latest bracket a link or an image. -/
def enclose (bracket : OpenBracket) (outer : List OpenBracket) (parts : List Part)
    (destination title : Text) : BracketScan :=
  let content := resolveEmphasis parts.reverse
  match bracket.kind with
  | .image =>
    { brackets := outer, parts := .done (.image destination title content) :: bracket.before }
  | _ =>
    { brackets := disableLinks outer
      parts := .done (.link destination title content) :: bracket.before }

end BracketScan

/-- What follows a right bracket when the destination is given by a label. -/
inductive ReferenceForm
  /-- A label of its own, with the position after it. -/
  | full (label : Text) (stop : Nat)
  /-- Empty brackets; the bracketed text itself is the label. -/
  | collapsed (rest : List Located)
  /-- Nothing; the bracketed text itself is the label. -/
  | shortcut

/-- Which form of reference follows a right bracket, given the position after it and the tokens
after it. A bracket that a backslash protects begins no label. -/
def referenceForm (around : Surroundings) (position : Nat) (tokens : List Located) :
    ReferenceForm :=
  match tokens with
  | [] => .shortcut
  | next :: rest =>
    if next.token.start != position then .shortcut
    else if Text.startsWith next.rest "[]" then .collapsed (rest.drop 1)
    else
      match Link.label? around.inTable (fun text => some (around.margin text)) next.rest with
      | some (length, label) => .full label (next.token.start + length)
      | none => .shortcut

/-- Marks a right bracket as one that was tried as the end of a reference. -/
def Located.spend (located : Located) : Located :=
  match located.token.kind with
  | .linkClose _ => { located with token := { located.token with kind := .linkClose true } }
  | _ => located

/-- The label that the text between two brackets makes, if it makes one as a whole. -/
def ownLabel? (around : Surroundings) (opening closing : Located) : Option Text :=
  let start := opening.token.stop - 1
  let text := opening.rest.drop (start - opening.token.start)
  let length := closing.token.stop - start
  match Link.label? around.inTable (fun text => some (around.margin text)) (text.take length) with
  | some (n, label) => if n == length then some label else none
  | none => none

/-- What a right bracket does: the link that it makes with the tokens left after it, or the tokens
that are left when it makes none. -/
inductive BracketOutcome
  | target (destination title : Text) (rest : List Located)
  | none (rest : List Located)

/-- Looks for the target of the link or image that a right bracket closes. -/
def bracketOutcome (around : Surroundings) (opening closing : Located) (spent : Bool)
    (tokens : List Located) : BracketOutcome :=
  match inlineTarget? around closing.token.stop tokens closing.after with
  | some (position, destination, title) =>
    .target destination title (Located.resumeAt position tokens)
  | .none =>
    let byLabel (label : Option Text) (rest whenMissing : List Located) : BracketOutcome :=
      match label.bind (findDefinition around.definitions) with
      | some definition => .target definition.destination definition.title rest
      | .none => .none whenMissing
    match referenceForm around closing.token.stop tokens with
    | .full label stop =>
      let skipped := tokens.takeWhile fun located => located.token.stop ≤ stop - 1
      match Located.dropThrough (stop - 1) tokens with
      | [] => .none tokens
      | last :: rest => byLabel (some label) rest (skipped ++ last.spend :: rest)
    | .collapsed rest =>
      if spent then .none tokens
      else byLabel (ownLabel? around opening closing) rest tokens
    | .shortcut =>
      if spent then .none tokens
      else byLabel (ownLabel? around opening closing) tokens tokens

namespace BracketScan

/-- Reads the tokens of a block. Every step uses up a token, so as many steps as there are tokens
suffice. -/
def run (around : Surroundings) : (fuel : Nat) → BracketScan → List Located → BracketScan
  | 0, scan, _ => scan
  | _, scan, [] => scan
  | fuel + 1, scan, located :: rest =>
    match located.token.kind with
    | .text => run around fuel (scan.pushText located.written) rest
    | .reference image => run around fuel (scan.pushText image) rest
    | .softBreak => run around fuel (scan.push (.done .softBreak)) rest
    | .hardBreak backslash => run around fuel (scan.push (.hardBreak backslash)) rest
    | .delimiter mark opens closes =>
      let written := located.written
      let count := Text.countWhile (· == mark) written
      run around fuel
        (scan.push (.run { mark, count, length := count, opens, closes, written })) rest
    | .ticks count escaped =>
      let width := if escaped then count - 1 else count
      match if width == 0 then none else findTicks width rest with
      | none => run around fuel (scan.pushText located.written) rest
      | some (closing, after) =>
        let between := located.after.take (closing.token.start - located.token.stop)
        let scan := if escaped then scan.pushText ['\x60'] else scan
        run around fuel (scan.push (.done (.code (codeContent around between)))) after
    | .angle =>
      match rest with
      | [] => run around fuel (scan.pushText located.written) rest
      | next :: _ =>
        match Link.autolinkLength? next.rest with
        | some length =>
          let address := next.rest.take length
          let rest := Located.resumeAt (next.token.start + length + 1) rest
          run around fuel (scan.push (.done (.link address [] [.text address]))) rest
        | none =>
          match RawHtml.special? next.rest with
          | some length =>
            let markup := located.written ++ next.rest.take length
            let rest := Located.resumeAt (next.token.start + length) rest
            run around fuel (scan.push (.done (.html markup))) rest
          | none =>
            match RawHtml.tag? (some around.margin) located.rest with
            | some tag =>
              let rest := Located.resumeAt (located.token.start + tag.read) rest
              run around fuel (scan.push (.done (.html tag.kept.reverse))) rest
            | none => run around fuel (scan.pushText located.written) rest
    | .linkOpen =>
      run around fuel { brackets := ⟨.link, located, scan.parts⟩ :: scan.brackets, parts := [] } rest
    | .imageOpen =>
      run around fuel { brackets := ⟨.image, located, scan.parts⟩ :: scan.brackets, parts := [] }
        rest
    | .linkClose spent =>
      match scan.brackets with
      | [] => run around fuel (scan.pushText located.written) rest
      | bracket :: outer =>
        let plain : BracketScan :=
          { brackets := outer
            parts := .done (.text located.written) :: asText bracket scan.parts }
        if bracket.kind = .disabled then run around fuel plain rest
        else match bracketOutcome around bracket.opening located spent rest with
          | .target destination title rest =>
            run around fuel (enclose bracket outer scan.parts destination title) rest
          | .none rest => run around fuel plain rest

end BracketScan

/-- The content of running text. -/
def Prose.inlines (prose : Prose) (around : Surroundings) : List Inline :=
  let tokens := Located.locate 0 prose.text prose.tokens
  let scan := BracketScan.run around tokens.length {} tokens
  let parts := (BracketScan.flatten scan.brackets scan.parts).reverse
  let content := resolveEmphasis parts
  match prose.task with
  | some checked => .taskMarker checked :: content
  | none => content

end DocSite.Markdown
