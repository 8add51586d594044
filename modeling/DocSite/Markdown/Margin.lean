import DocSite.Text.Basic

/-!
# Line ends and margins

How lines end, which lines are blank, and how the white space at the start of a line is measured
in columns. A tab reaches to the next column that is a multiple of four; part of it can be taken
and the rest left for whoever measures next.
-/

namespace DocSite.Markdown

/-- White space within a line: tab, vertical tab, form feed or space. -/
def isLineSpace (c : Char) : Bool :=
  c == '\t' || c == '\x0b' || c == '\x0c' || c == ' '

/-- ASCII white space, line ends included. -/
def isSpace (c : Char) : Bool :=
  ('\t' ≤ c && c ≤ '\r') || c == ' '

/-- The length of the line end at the start of a text; the end of the text is one of length
zero. -/
def lineEnd? : Text → Option Nat
  | [] => some 0
  | '\n' :: _ => some 1
  | '\r' :: '\n' :: _ => some 2
  | '\r' :: _ => some 1
  | _ => none

/-- The length of the blank line at the start of a text, line end included. -/
def blankLine? (text : Text) : Option Nat :=
  let space := Text.countWhile isLineSpace text
  (lineEnd? (text.drop space)).map (space + ·)

/-- The length of a raw line, which runs up to and with the next line feed. -/
def rawLineLength (text : Text) : Nat :=
  let body := Text.countWhile (· != '\n') text
  if (text.drop body).isEmpty then body else body + 1

/-- The start of a line as it is being read. -/
structure Margin where
  /-- What has not been read. -/
  rest : Text
  /-- How many characters have been read. -/
  read : Nat := 0
  /-- How many of them came after the last tab stop. -/
  sinceStop : Nat := 0
  /-- The columns of the last tab that have not been taken. -/
  pending : Nat := 0

namespace Margin

/-- The margin of a line of which nothing has been read. -/
def ofText (text : Text) : Margin :=
  { rest := text }

/-- Takes columns of white space from the text; the first part is how many were missing. -/
def takeColumns : Nat → Text → (read sinceStop : Nat) → Nat × Margin
  | 0, rest, read, sinceStop => (0, ⟨rest, read, sinceStop, 0⟩)
  | wanted + 1, ' ' :: rest, read, sinceStop => takeColumns wanted rest (read + 1) (sinceStop + 1)
  | wanted + 1, '\t' :: rest, read, sinceStop =>
    let width := 4 - sinceStop % 4
    if width ≤ wanted then takeColumns (wanted + 1 - width) rest (read + 1) 0
    else (0, ⟨rest, read + 1, 0, width - (wanted + 1)⟩)
  | wanted + 1, rest, read, sinceStop => (wanted + 1, ⟨rest, read, sinceStop, 0⟩)
termination_by structural _ text => text

/-- Takes up to `wanted` columns of white space; the first part is how many were missing. -/
def skipColumns (wanted : Nat) (margin : Margin) : Nat × Margin :=
  if wanted ≤ margin.pending then (0, { margin with pending := margin.pending - wanted })
  else takeColumns (wanted - margin.pending) margin.rest margin.read margin.sinceStop

/-- Takes all white space up to the next mark or line end. -/
def skipAll (margin : Margin) : Margin :=
  let space := Text.countWhile (fun c => c == ' ' || c == '\t') margin.rest
  { margin with
    rest := margin.rest.drop space
    read := margin.read + space
    sinceStop := margin.sinceStop + space
    pending := 0 }

/-- Whether nothing is left of the line. -/
def atEnd (margin : Margin) : Bool :=
  match margin.rest with
  | [] => true
  | c :: _ => c == '\n' || c == '\r'

/-- Reads characters that are not white space. -/
def advance (count : Nat) (margin : Margin) : Margin :=
  { margin with
    rest := margin.rest.drop count
    read := margin.read + count
    sinceStop := margin.sinceStop + count }

/-- Reads the mark that each line of a block quote bears, with one column after it. -/
def quoteMark? (margin : Margin) : Option Margin :=
  match margin.rest with
  | '>' :: _ => some (((margin.advance 1).skipColumns 1).2)
  | _ => none

end Margin

end DocSite.Markdown
