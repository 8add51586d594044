import DocSite.Markdown.RawHtml
import DocSite.Markdown.Event

/-!
# What a line can start

The marks at the start of a line that open a block: thematic breaks, headings, fences, quotes,
list items and tables. Each function looks at a text from the first character after the white
space of the line.
-/

namespace DocSite.Markdown

/-- The number of repetitions of `c` at the start of a text. -/
def countRun (c : Char) (text : Text) : Nat :=
  Text.countWhile (· == c) text

/-! ## Breaks and headings -/

/-- The length of a thematic break, line end included: at least three times the same mark, with
nothing but spaces and tabs between them. -/
def thematicBreak? (text : Text) : Option Nat :=
  match text with
  | [] => none
  | mark :: _ =>
    if !(mark == '*' || mark == '-' || mark == '_') then none
    else
      let line := text.takeWhile fun c => c == mark || c == ' ' || c == '\t'
      if line.count mark < 3 then none
      else (lineEnd? (text.drop line.length)).map (line.length + ·)

/-- The level of a heading that begins with number signs. -/
def headingMark? (text : Text) : Option HeadingLevel :=
  let signs := countRun '#' text
  match text.drop signs with
  | [] => HeadingLevel.ofNumber? signs
  | c :: _ => if isSpace c then HeadingLevel.ofNumber? signs else none

/-- The line under a heading: its length and the level of the heading. -/
def underline? (text : Text) : Option (Nat × HeadingLevel) :=
  match text with
  | '=' :: _ =>
    let run := countRun '=' text
    (blankLine? (text.drop run)).map fun n => (run + n, .h1)
  | '-' :: _ =>
    let run := countRun '-' text
    (blankLine? (text.drop run)).map fun n => (run + n, .h2)
  | _ => none

/-! ## Fences -/

/-- The opening of a fenced code block: how many marks, and which. -/
def fence? (text : Text) : Option (Nat × Char) :=
  match text with
  | [] => none
  | mark :: _ =>
    if !(mark == '\x60' || mark == '~') then none
    else
      let run := countRun mark text
      if run < 3 then none
      else
        let rest := text.drop run
        if mark == '\x60' && (rest.take (rawLineLength rest)).any (· == '\x60') then none
        else some (run, mark)

/-- The length of the fence that closes a code block, without its line end. The end of the text
closes every block. -/
def closingFence? (mark : Char) (count : Nat) (text : Text) : Option Nat :=
  if text.isEmpty then some 0
  else
    let run := countRun mark text
    if run < count then none
    else
      let spaces := countRun ' ' (text.drop run)
      (lineEnd? (text.drop (run + spaces))).map fun _ => run + spaces

/-! ## List items and quotes -/

/-- The mark of a list item at the start of a line that might end a paragraph: its length, the
character that tells lists apart, and the number. White space or the line end follows. -/
def itemMark? (text : Text) : Option (Nat × Char × Nat) :=
  let mark : Option (Nat × Char × Nat) :=
    match text with
    | [] => none
    | c :: _ =>
      if c == '-' || c == '+' || c == '*' then some (1, c, 0)
      else
        let digits := (text.take 9).takeWhile Text.isAsciiDigit
        if digits.isEmpty then none
        else match text.drop digits.length with
          | d :: _ =>
            if d == '.' || d == ')' then some (digits.length + 1, d, Text.decimalValue digits)
            else none
          | [] => none
  match mark with
  | none => none
  | some (length, kind, number) =>
    match text.drop length with
    | [] => some (length, kind, number)
    | c :: _ =>
      if c == ' ' || c == '\t' || c == '\n' || c == '\r' then some (length, kind, number)
      else none

namespace Margin

/-- A list item's mark has been read: takes the white space after it and gives the columns that
later lines of the item are indented by. Four columns or more belong to the item's content. -/
def afterItemMark (margin : Margin) (kind : Char) (number columns : Nat) :
    Char × Nat × Nat × Margin :=
  if (blankLine? margin.rest).isSome then (kind, number, columns, margin)
  else
    let (missing, spaced) := margin.skipColumns 4
    if missing == 0 then (kind, number, columns, margin)
    else (kind, number, columns + (4 - missing), spaced)

/-- Takes the one column, or the line end, that has to follow the mark of a list item. -/
def markSpace? (margin : Margin) : Option Margin :=
  let (missing, spaced) := margin.skipColumns 1
  if missing == 0 || spaced.atEnd then some spaced else none

/-- The mark of a list item: the character that tells lists apart, the number, the indentation of
the item's content, and what follows. A thematic break is no item. -/
def itemMark? (margin : Margin) (indent : Nat) : Option (Char × Nat × Nat × Margin) :=
  match margin.rest with
  | [] => none
  | c :: _ =>
    if c == '-' || c == '+' || c == '*' then
      if (thematicBreak? margin.rest).isSome then none
      else (margin.advance 1).markSpace?.map fun after => after.afterItemMark c 0 (indent + 2)
    else
      let digits := (margin.rest.take 9).takeWhile Text.isAsciiDigit
      if digits.isEmpty then none
      else match margin.rest.drop digits.length with
        | [] => none
        | d :: _ =>
          if d == '.' || d == ')' then
            (margin.advance (digits.length + 1)).markSpace?.map fun after =>
              after.afterItemMark d (Text.decimalValue digits) (indent + digits.length + 2)
          else none

/-- The box of a task list item: whether it is checked, and what follows. White space or a line
end has to follow. -/
def taskMark? (margin : Margin) : Option (Bool × Margin) :=
  let spaced := (margin.skipColumns 3).2
  match spaced.rest with
  | '[' :: mark :: ']' :: after :: _ =>
    if !isSpace after then none
    else if isLineSpace mark then some (false, spaced.advance 3)
    else if mark == 'x' || mark == 'X' then some (true, spaced.advance 3)
    else none
  | _ => none

/-- The words that turn a quote into a call-out. -/
def alertWords : List (Text × Alert) := [
  ("[!note]", .note), ("[!tip]", .tip), ("[!important]", .important), ("[!warning]", .warning),
  ("[!caution]", .caution)]

/-- The word that turns a quote into a call-out, alone on its line; the line end is read too. -/
def alertMark? (margin : Margin) : Option (Alert × Margin) :=
  match alertWords.find? fun word => Text.startsWithIgnoringCase margin.rest word.1 with
  | none => none
  | some (word, alert) =>
    let after := margin.advance word.length
    (blankLine? after.rest).map fun n => (alert, after.advance n)

end Margin

/-! ## Tables -/

/-- What has been read of the line under a table's head. -/
structure DelimiterRow where
  /-- The columns that are complete, latest first. -/
  columns : List Alignment := []
  /-- The alignment of the current column. -/
  current : Alignment := .none
  /-- Whether the current column is still empty. -/
  fresh : Bool := true
  /-- Whether a bar was seen anywhere. -/
  bar : Bool := false
  /-- Whether a hyphen was seen anywhere. -/
  hyphen : Bool := false
  /-- Whether a hyphen was seen in the current column. -/
  columnHyphen : Bool := false

/-- Reads one character of the line under a table's head. -/
def DelimiterRow.step (row : DelimiterRow) (c : Char) : Option DelimiterRow :=
  if c == ' ' then some row
  else if c == ':' then
    let current :=
      match row.fresh, row.current with
      | true, .none => .left
      | false, .left => .center
      | false, .none => .right
      | _, current => current
    some { row with current, fresh := false }
  else if c == '-' then some { row with fresh := false, hyphen := true, columnHyphen := true }
  else if c == '|' then
    if row.columnHyphen then
      some { row with
        columns := row.current :: row.columns
        current := .none
        fresh := true
        bar := true
        columnHyphen := false }
    else none
  else none

/-- The line under a table's head: its length, line end included, and the alignments. -/
def delimiterRow? (text : Text) : Option (Nat × List Alignment) := do
  let (missing, indented) := (Margin.ofText text).skipColumns 4
  if missing == 0 || indented.rest.isEmpty then none
  let leading := indented.rest.head? == some '|'
  let start := if leading then indented.rest.drop 1 else indented.rest
  let line := start.takeWhile fun c => !(c == '\n' || c == '\r')
  let row ← line.foldlM DelimiterRow.step { bar := leading }
  let ending ← lineEnd? (start.drop line.length)
  let columns := if row.fresh then row.columns else row.current :: row.columns
  if !row.bar || !row.hyphen then none
  some (indented.read + (if leading then 1 else 0) + line.length + ending, columns.reverse)

/-- Counts the bars of a line that have no backslash before them; the second part is the text
after the last of them. -/
def countBars : (previous : Char) → Text → Nat × Option Text
  | _, [] => (0, none)
  | previous, c :: rest =>
    if c == '\n' || c == '\r' then (0, none)
    else
      let (bars, after) := countBars c rest
      if c == '|' && previous != '\\' then (bars + 1, after.or (some rest)) else (bars, after)

/-- The number of columns that the bars of a table's head make; absent without any bar. -/
def headColumns? (line : Text) : Option Nat :=
  match countBars ' ' line with
  | (_, none) => none
  | (bars, some after) =>
    let leading := (line.dropWhile isLineSpace).head? == some '|'
    let inner := if leading then bars - 1 else bars
    some (if (blankLine? after).isSome then inner else inner + 1)

end DocSite.Markdown
