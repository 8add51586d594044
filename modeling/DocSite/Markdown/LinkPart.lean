import DocSite.Markdown.Container
import DocSite.Html.Entity

/-!
# The parts of links

Destinations, labels and addresses in angle brackets, and how backslashes and character
references in them are resolved. In a table a bar is written with a backslash before it, which
one more backslash does not undo.
-/

namespace DocSite.Markdown

/-- Resolves backslashes and character references. Carriage returns are dropped. -/
def unescape (inTable : Bool) : (skip : Nat) → Text → Text
  | _, [] => []
  | skip + 1, _ :: rest => unescape inTable skip rest
  | 0, c :: rest =>
    if c == '\\' then
      match rest with
      | '\\' :: '|' :: _ =>
        if inTable then '|' :: unescape inTable 2 rest else '\\' :: unescape inTable 1 rest
      | next :: _ =>
        if Text.isAsciiPunctuation next then next :: unescape inTable 1 rest
        else '\\' :: unescape inTable 0 rest
      | [] => ['\\']
    else if c == '&' then
      match Html.characterReference? (c :: rest) with
      | some (length, image) => image ++ unescape inTable (length - 1) rest
      | none => '&' :: unescape inTable 0 rest
    else if c == '\r' then unescape inTable 0 rest
    else c :: unescape inTable 0 rest
termination_by structural _ text => text

namespace Link

/-! ## Destinations -/

/-- The length of a destination between angle brackets, from after the left one up to the right
one. -/
def bracketedLength : (skip : Bool) → Text → Option Nat
  | _, [] => none
  | true, _ :: rest => (bracketedLength false rest).map (· + 1)
  | false, c :: rest =>
    if c == '\n' || c == '\r' || c == '<' then none
    else if c == '>' then some 0
    else
      let escape := c == '\\' && rest.head?.any Text.isAsciiPunctuation
      (bracketedLength escape rest).map (· + 1)

/-- The greatest depth of parentheses in a destination. -/
def maxNesting : Nat := 32

/-- The length of a destination without angle brackets, in which parentheses are balanced. It ends
at a space, at a control character or at the parenthesis that closes the link. -/
def bareLength : (skip : Bool) → (depth : Nat) → Text → Option Nat
  | _, depth, [] => if depth == 0 then some 0 else none
  | true, depth, _ :: rest => (bareLength false depth rest).map (· + 1)
  | false, depth, c :: rest =>
    if c ≤ ' ' then if depth == 0 then some 0 else none
    else if c == '(' then
      if depth > maxNesting then none else (bareLength false (depth + 1) rest).map (· + 1)
    else if c == ')' then
      if depth == 0 then some 0 else (bareLength false (depth - 1) rest).map (· + 1)
    else
      let escape := c == '\\' && rest.head?.any Text.isAsciiPunctuation
      (bareLength escape depth rest).map (· + 1)

/-- A destination at the start of a text: how many characters it takes, and its raw text. -/
def destination? (text : Text) : Option (Nat × Text) :=
  match text with
  | '<' :: rest => (bracketedLength false rest).map fun n => (n + 2, rest.take n)
  | _ => (bareLength false 0 text).map fun n => (n, text.take n)

/-! ## Labels -/

/-- What has been read of a label. -/
structure LabelScan where
  /-- The label with white space collapsed, latest character first. -/
  label : Text := []
  /-- How many characters have been read. -/
  read : Nat := 0
  /-- How much of the length limit has been used. -/
  used : Nat := 0
  /-- Whether only white space has been read. -/
  blank : Bool := true

/-- The greatest number of characters in a label. -/
def maxLabel : Nat := 1000

/-- Reads white space within a label, in which at most one line may end; `cross` gives the width
of the next line's margin, or refuses to go on there. -/
def labelSpace (cross : Text → Option Nat) :
    (fuel : Nat) → (crossed : Bool) → (read : Nat) → Text → Option (Nat × Text)
  | 0, _, _, _ => none
  | fuel + 1, crossed, read, text =>
    match text with
    | [] => some (read, text)
    | c :: rest =>
      if !isSpace c then some (read, text)
      else match lineEnd? text with
        | some n =>
          if crossed then none
          else do
            let width ← cross (text.drop n)
            labelSpace cross fuel true (read + n + width) (text.drop (n + width))
        | none => labelSpace cross fuel crossed (read + 1) rest

/-- Reads a label up to and with its right bracket. Runs of white space become one space; a
backslash keeps the next character from ending the label. -/
def labelRest (inTable : Bool) (cross : Text → Option Nat) :
    (fuel : Nat) → LabelScan → Text → Option (Nat × Text)
  | 0, _, _ => none
  | fuel + 1, scan, text =>
    if scan.used ≥ maxLabel then none
    else match text with
      | [] => none
      | '[' :: _ => none
      | ']' :: _ => if scan.blank then none else some (scan.read + 1, scan.label.reverse)
      | '\\' :: rest =>
        match rest with
        | '\\' :: '|' :: more =>
          if inTable then
            labelRest inTable cross fuel
              { scan with label := '|' :: '\\' :: scan.label, read := scan.read + 3, blank := false
                          used := scan.used + 2 } more
          else
            labelRest inTable cross fuel
              { scan with label := '\\' :: '\\' :: scan.label, read := scan.read + 2, blank := false
                          used := scan.used + 2 } ('|' :: more)
        | '|' :: more =>
          labelRest inTable cross fuel
            { scan with
              label := if inTable then '|' :: scan.label else '|' :: '\\' :: scan.label
              read := scan.read + 2
              used := scan.used + 2
              blank := false } more
        | next :: more =>
          labelRest inTable cross fuel
            { scan with label := next :: '\\' :: scan.label, read := scan.read + 2
                        used := scan.used + 2, blank := false } more
        | [] => none
      | c :: rest =>
        if isSpace c then do
          let (read, more) ← labelSpace cross (text.length + 1) false 0 text
          labelRest inTable cross fuel
            { scan with label := ' ' :: scan.label, read := scan.read + read
                        used := scan.used + read } more
        else
          labelRest inTable cross fuel
            { scan with label := c :: scan.label, read := scan.read + 1
                        used := if c.toNat < 128 then scan.used else scan.used + 1
                        blank := false } rest

/-- A label at the start of a text: how many characters it takes with its brackets, and its text
with white space collapsed. -/
def label? (inTable : Bool) (cross : Text → Option Nat) (text : Text) : Option (Nat × Text) :=
  match text with
  | '[' :: rest =>
    (labelRest inTable cross (rest.length + 1) {} rest).map fun found =>
      (found.1 + 1, Text.dropEndWhile (· == ' ') (found.2.dropWhile (· == ' ')))
  | _ => none

/-! ## Addresses in angle brackets -/

/-- A URI after a left angle bracket: its length without the right one. The scheme has two to
thirty-two characters. -/
def uriLength? (text : Text) : Option Nat :=
  match text with
  | [] => none
  | first :: rest =>
    if !Text.isAsciiLetter first then none
    else
      let scheme := rest.takeWhile fun c =>
        Text.isAsciiAlphanumeric c || c == '.' || c == '-' || c == '+'
      let afterScheme := rest.drop scheme.length
      if afterScheme.head? != some ':' || scheme.length < 1 || scheme.length > 31 then none
      else
        let body := afterScheme.takeWhile fun c => !(c ≤ ' ' || c == '<' || c == '>')
        if (afterScheme.drop body.length).head? == some '>' then
          some (1 + scheme.length + body.length)
        else none

/-- Whether a character can stand before the at sign of a mail address. -/
def isMailboxChar (c : Char) : Bool :=
  Text.isAsciiAlphanumeric c || List.elem c ".!#$%&*+/=?^_|~-".toList || c == '\x27' ||
    c == '\x60' || c == '\x7b' || c == '\x7d'

/-- Whether a text can be one of the parts of a mail address between the dots after the at
sign. -/
def isHostLabel (label : Text) : Bool :=
  !label.isEmpty && label.length ≤ 63 && label.head? != some '-' && label.getLast? != some '-'

/-- A mail address after a left angle bracket: its length without the right one. -/
def mailLength? (text : Text) : Option Nat :=
  let mailbox := text.takeWhile isMailboxChar
  match text.drop mailbox.length with
  | '@' :: rest =>
    if mailbox.isEmpty then none
    else
      let host := rest.takeWhile fun c => Text.isAsciiAlphanumeric c || c == '-' || c == '.'
      if (rest.drop host.length).head? != some '>' then none
      else if (Text.splitAt (· == '.') host).all isHostLabel then
        some (mailbox.length + 1 + host.length)
      else none
  | _ => none

/-- An address in angle brackets, from after the left one on: its length without the right
one. -/
def autolinkLength? (text : Text) : Option Nat :=
  (uriLength? text).or (mailLength? text)

end Link

end DocSite.Markdown
