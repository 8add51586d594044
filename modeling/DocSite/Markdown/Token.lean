import DocSite.Markdown.LinkPart
import DocSite.Text.Punctuation
import DocSite.Text.Blank

/-!
# Tokens of a line

A line of running text is cut into tokens: stretches of plain text and the marks that may turn
out to be markup once the whole block is known. A token is a stretch of the block's text, given by
where it begins and where it stops; a backslash that protects a mark belongs to no token.
-/

namespace DocSite.Markdown

/-- What a token may be. -/
inductive TokenKind
  /-- Plain text. -/
  | text
  /-- A character reference and what it stands for. -/
  | reference (image : Text)
  /-- A run of emphasis marks, with the sides on which it can stand. -/
  | delimiter (mark : Char) (opens closes : Bool)
  /-- A run of grave accents; before an escaped run stands a backslash. -/
  | ticks (count : Nat) (escaped : Bool)
  /-- A left angle bracket. -/
  | angle
  /-- A left bracket. -/
  | linkOpen
  /-- A left bracket after an exclamation mark. -/
  | imageOpen
  /-- A right bracket. A spent one was tried as the end of a reference in vain. -/
  | linkClose (spent : Bool)
  | softBreak
  | hardBreak (backslash : Bool)
  deriving DecidableEq

/-- A token of a block's text. -/
structure Token where
  /-- What the token may be. -/
  kind : TokenKind
  /-- The position of its first character. -/
  start : Nat
  /-- The position after its last character. -/
  stop : Nat

/-- The break after a line that goes on. -/
inductive LineBreak
  | soft (start stop : Nat)
  | hard (backslash : Bool) (start stop : Nat)

/-- The token of a break. -/
def LineBreak.token : LineBreak → Token
  | soft start stop => ⟨.softBreak, start, stop⟩
  | hard backslash start stop => ⟨.hardBreak backslash, start, stop⟩

/-- Where a line stopped. -/
structure LineStop where
  /-- The position after the line, line end included. -/
  position : Nat
  /-- The text from there on. -/
  rest : Text
  /-- The break, unless a bar or the end of the text stopped the line. -/
  lineBreak : Option LineBreak

/-! ## Emphasis marks -/

/-- Whether a run of emphasis marks can open emphasis. `before` is absent at the start of a line,
`after` at the end of the text. -/
def canOpen (inCell : Bool) (mark : Char) (count : Nat) (before after : Option Char) : Bool :=
  match after with
  | none => false
  | some next =>
    if Text.isBlank next then false
    else match before with
      | none => true
      | some previous =>
        if inCell && next == '|' then false
        else
          (mark == '*' && !Text.isPunctuation next) || (mark == '~' && count > 1) ||
            (mark == '~' && previous == '~' && !Text.isPunctuation next) ||
            Text.isBlank previous || Text.isPunctuation previous

/-- Whether a run of emphasis marks can close emphasis. -/
def canClose (inCell : Bool) (mark : Char) (count : Nat) (before after : Option Char) : Bool :=
  match before with
  | none => false
  | some previous =>
    if Text.isBlank previous then false
    else match after with
      | none => true
      | some next =>
        if inCell && next == '|' then true
        else
          ((mark == '*' || (mark == '~' && count > 1)) && !Text.isPunctuation previous) ||
            (mark == '~' && previous == '~') || Text.isBlank next || Text.isPunctuation next

/-! ## Cutting a line -/

/-- A line while it is being cut. -/
structure LineScan where
  /-- The position of the next character. -/
  position : Nat
  /-- Where the text begins that belongs to no token yet. -/
  textStart : Nat
  /-- The tokens so far, latest first. -/
  tokens : List Token
  /-- The character before the next one, absent at the start of the line. -/
  previous : Option Char := none
  /-- How many white characters stand directly before the next one. -/
  trailingSpace : Nat := 0
  /-- How many backslashes stand directly before the next one. -/
  trailingBackslashes : Nat := 0

namespace LineScan

/-- Goes on past one character. -/
def advance (c : Char) (scan : LineScan) : LineScan :=
  { scan with
    position := scan.position + 1
    previous := some c
    trailingSpace := if isLineSpace c then scan.trailingSpace + 1 else 0
    trailingBackslashes := if c == '\\' then scan.trailingBackslashes + 1 else 0 }

/-- Makes a token of the pending text up to `stop`, if there is any. -/
def flush (stop : Nat) (scan : LineScan) : LineScan :=
  if scan.textStart < stop then
    { scan with tokens := ⟨.text, scan.textStart, stop⟩ :: scan.tokens }
  else scan

/-- Makes a token of the next `length` characters. -/
def mark (kind : TokenKind) (length : Nat) (scan : LineScan) : LineScan :=
  let flushed := scan.flush scan.position
  { flushed with
    tokens := ⟨kind, scan.position, scan.position + length⟩ :: flushed.tokens
    textStart := scan.position + length }

/-- Leaves out the next character, a backslash, and makes a token of what follows it. -/
def escape (scan : LineScan) (count : Nat) : LineScan :=
  { scan.flush scan.position with textStart := scan.position + count }

/-- The end of a line, at a line end of a certain length after which `rest` follows. -/
def lineEnd (scan : LineScan) (length : Nat) (rest : Text) : List Token × LineStop :=
  let stop := scan.position + length
  if scan.trailingBackslashes % 2 == 1 && !rest.isEmpty then
    let breakStart := scan.position - 1
    ((scan.flush breakStart).tokens, ⟨stop, rest, some (.hard true breakStart stop)⟩)
  else
    let breakStart := scan.position - scan.trailingSpace
    let lineBreak :=
      if scan.trailingSpace ≥ 2 then LineBreak.hard false breakStart stop
      else LineBreak.soft scan.position stop
    ((scan.flush breakStart).tokens, ⟨stop, rest, some lineBreak⟩)

/-- The end of a line at a bar or at the end of the text. -/
def cut (scan : LineScan) (rest : Text) : List Token × LineStop :=
  ((scan.flush (scan.position - scan.trailingSpace)).tokens, ⟨scan.position, rest, none⟩)

/-- Cuts a line into tokens, latest first. In a cell of a table a bar ends the line, and so does
the line end. -/
def line (inCell : Bool) : (skip : Nat) → Text → LineScan → List Token × LineStop
  | _, [], scan => scan.cut []
  | skip + 1, c :: rest, scan => line inCell skip rest (scan.advance c)
  | 0, c :: rest, scan =>
    if c == '\n' || c == '\r' then
      if inCell then scan.cut (c :: rest)
      else
        let length := if c == '\r' && rest.head? == some '\n' then 2 else 1
        scan.lineEnd length (rest.drop (length - 1))
    else if c == '\\' then
      match rest with
      | [] => line inCell 0 rest (scan.advance c)
      | next :: more =>
        if !Text.isAsciiPunctuation next then line inCell 0 rest (scan.advance c)
        else if next == '\x60' then
          let count := Text.countWhile (· == '\x60') rest
          let escaped := scan.escape 1
          let token : Token := ⟨.ticks count true, scan.position + 1, scan.position + 1 + count⟩
          line inCell count rest
            ({ escaped with
              tokens := token :: escaped.tokens
              textStart := scan.position + 1 + count }.advance c)
        else if inCell && next == '\\' && more.head? == some '|' then
          line inCell 2 rest ((scan.escape 2).advance c)
        else line inCell 1 rest ((scan.escape 1).advance c)
    else if c == '*' || c == '_' || c == '~' then
      let count := Text.countWhile (· == c) (c :: rest)
      let after := (rest.drop (count - 1)).head?
      let opens := canOpen inCell c count scan.previous after
      let closes := canClose inCell c count scan.previous after
      if (opens || closes) && (c != '~' || count ≤ 2) then
        line inCell (count - 1) rest ((scan.mark (.delimiter c opens closes) count).advance c)
      else line inCell (count - 1) rest (scan.advance c)
    else if c == '\x60' then
      let count := Text.countWhile (· == c) (c :: rest)
      line inCell (count - 1) rest ((scan.mark (.ticks count false) count).advance c)
    else if c == '<' && rest.head? != some '\\' then
      line inCell 0 rest ((scan.mark .angle 1).advance c)
    else if c == '!' && rest.head? == some '[' then
      line inCell 1 rest ((scan.mark .imageOpen 2).advance c)
    else if c == '[' then
      line inCell 0 rest ((scan.mark .linkOpen 1).advance c)
    else if c == ']' then
      line inCell 0 rest ((scan.mark (.linkClose false) 1).advance c)
    else if c == '&' then
      match Html.characterReference? (c :: rest) with
      | some (length, image) =>
        line inCell (length - 1) rest ((scan.mark (.reference image) length).advance c)
      | none => line inCell 0 rest (scan.advance c)
    else if c == '|' && inCell && scan.previous != some '\\' then scan.cut (c :: rest)
    else line inCell 0 rest (scan.advance c)
termination_by structural _ text => text

end LineScan

/-- Cuts a line that begins at a position of the block into tokens, latest first, in front of
those of the lines before it. -/
def tokenizeLine (inCell : Bool) (position : Nat) (text : Text) (before : List Token) :
    List Token × LineStop :=
  LineScan.line inCell 0 text { position, textStart := position, tokens := before }

end DocSite.Markdown
