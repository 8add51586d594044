import DocSite.Text.Basic

/-!
# The statements of a TOML text

A TOML text is a list of statements: headers of tables, headers of the elements of lists of tables,
and members with a key and a value. This module finds the statements, the keys and the values; what
they stand for is not looked at. A text that does not consist of statements is refused as a whole.
-/

namespace DocSite.Toml

/-- A key as it is written. -/
inductive Key
  /-- Letters, digits, underscores and hyphens. -/
  | bare (name : Text)
  /-- Text in quotation marks, with escapes. -/
  | basic (body : Text)
  /-- Text in apostrophes. -/
  | literal (body : Text)
  deriving DecidableEq, Repr

/-- The keys between the dots of a dotted key. -/
abbrev Path := List Key

/-- A value as it is written. -/
inductive Written
  /-- A value without quotes around it. -/
  | word (text : Text)
  /-- Text in quotation marks, with escapes. -/
  | basic (body : Text)
  /-- Text in apostrophes. -/
  | literal (body : Text)
  /-- Lines between three quotation marks, with escapes. -/
  | basicLines (body : Text)
  /-- Lines between three apostrophes. -/
  | literalLines (body : Text)
  /-- A list. -/
  | list (items : List Written)
  /-- A table in braces. -/
  | table (members : List (Path × Written))
  deriving Repr

/-- A statement. -/
inductive Statement
  /-- The members that follow belong to the table with this path. -/
  | header (path : Path)
  /-- The members that follow belong to a new element of the list with this path. -/
  | listHeader (path : Path)
  /-- A member. -/
  | member (path : Path) (value : Written)
  deriving Repr

/-! ## Characters -/

/-- A space or a tab. -/
def isSpace (c : Char) : Bool :=
  c == ' ' || c == '\t'

/-- A control character that no part of a text may hold. -/
def isControl (c : Char) : Bool :=
  (c < ' ' && c != '\t') || c == '\x7f'

/-- A character of a bare key. -/
def isBareChar (c : Char) : Bool :=
  Text.isAsciiAlphanumeric c || c == '_' || c == '-'

/-- A character of a value without quotes. -/
def isWordChar (c : Char) : Bool :=
  !(isSpace c || isControl c ||
    [',', '=', '[', ']', '\x7b', '\x7d', '#', '\x22', '\x27'].contains c)

/-! ## Blanks -/

/-- Passes spaces and tabs. -/
def skipSpaces (text : Text) : Text :=
  text.dropWhile isSpace

/-- Passes a line break; there is none at a lone carriage return. -/
def lineBreak? : Text → Option Text
  | '\n' :: rest => some rest
  | '\r' :: '\n' :: rest => some rest
  | _ => none

/-- Passes a comment up to the end of its line. -/
def skipComment : Text → Text
  | '#' :: rest => rest.dropWhile fun c => !isControl c
  | text => text

/-- Passes the end of a statement: spaces, perhaps a comment, and a line break or the end of the
text. -/
def lineEnd? (text : Text) : Option Text :=
  match skipComment (skipSpaces text) with
  | [] => some []
  | rest => lineBreak? rest

/-- Passes spaces, line breaks and comments. -/
def skipLines : (fuel : Nat) → Text → Text
  | 0, text => text
  | fuel + 1, text =>
    let rest := skipComment (skipSpaces text)
    match lineBreak? rest with
    | some more => skipLines fuel more
    | none => rest

/-! ## Quoted texts -/

/-- Reads up to the closing apostrophe on the same line. -/
def literalBody? : Text → Option (Text × Text)
  | [] => none
  | c :: rest =>
    if c == '\x27' then some ([], rest)
    else if isControl c then none
    else (literalBody? rest).map fun (body, more) => (c :: body, more)

/-- Reads up to the closing quotation mark on the same line. A backslash keeps the character behind
it from closing the text. -/
def basicBody? : Text → Option (Text × Text)
  | [] => none
  | '\\' :: c :: rest =>
    if isControl c then none
    else (basicBody? rest).map fun (body, more) => ('\\' :: c :: body, more)
  | c :: rest =>
    if c == '\x22' then some ([], rest)
    else if isControl c then none
    else (basicBody? rest).map fun (body, more) => (c :: body, more)

/-- A control character that lines may not hold. -/
def isLinesControl (c : Char) (rest : Text) : Bool :=
  isControl c && c != '\n' && !(c == '\r' && Text.startsWith rest ['\n'])

/-- The end of lines at a run of three to five quotes: those before the last three are text. -/
def closeLines? (quote : Char) (text : Text) : Option (Text × Text) :=
  let count := Text.countWhile (· == quote) text
  if 5 < count then none else some (List.replicate (count - 3) quote, text.drop count)

/-- Reads lines up to three apostrophes. -/
def literalLinesBody? : Text → Option (Text × Text)
  | [] => none
  | c :: rest =>
    if Text.startsWith (c :: rest) (List.replicate 3 '\x27') then closeLines? '\x27' (c :: rest)
    else if isLinesControl c rest then none
    else (literalLinesBody? rest).map fun (body, more) => (c :: body, more)

/-- Reads lines up to three quotation marks. A backslash keeps the character behind it from
closing the text. -/
def basicLinesBody? : Text → Option (Text × Text)
  | [] => none
  | '\\' :: c :: rest =>
    if isLinesControl c rest then none
    else (basicLinesBody? rest).map fun (body, more) => ('\\' :: c :: body, more)
  | c :: rest =>
    if Text.startsWith (c :: rest) (List.replicate 3 '\x22') then closeLines? '\x22' (c :: rest)
    else if isLinesControl c rest then none
    else (basicLinesBody? rest).map fun (body, more) => (c :: body, more)

/-- Passes the line break right behind the opening quotes of lines. -/
def skipFirstBreak (text : Text) : Text :=
  (lineBreak? text).getD text

/-! ## Keys -/

/-- Reads a key without dots. -/
def key? : Text → Option (Key × Text)
  | '\x22' :: rest => (basicBody? rest).map fun (body, more) => (.basic body, more)
  | '\x27' :: rest => (literalBody? rest).map fun (body, more) => (.literal body, more)
  | text =>
    let name := text.takeWhile isBareChar
    if name.isEmpty then none else some (.bare name, text.drop name.length)

/-- Reads the keys of a dotted key, and the spaces around it. -/
def path? : (fuel : Nat) → Text → Option (Path × Text)
  | 0, _ => none
  | fuel + 1, text => do
    let (key, rest) ← key? (skipSpaces text)
    match skipSpaces rest with
    | '.' :: rest =>
      let (path, rest) ← path? fuel rest
      return (key :: path, rest)
    | rest => return ([key], rest)

/-! ## Values -/

/-- Whether a word is a date, behind which a time may follow after a space. -/
def isDateWord : Text → Bool
  | [a, b, c, d, '-', e, f, '-', g, h] => [a, b, c, d, e, f, g, h].all Text.isAsciiDigit
  | _ => false

/-- Reads a value without quotes. -/
def word? (text : Text) : Option (Text × Text) :=
  let word := text.takeWhile isWordChar
  let rest := text.drop word.length
  if word.isEmpty then none
  else
    match rest with
    | ' ' :: c :: more =>
      if isDateWord word && Text.isAsciiDigit c then
        let time := c :: more.takeWhile isWordChar
        some (word ++ ' ' :: time, rest.drop (time.length + 1))
      else some (word, rest)
    | _ => some (word, rest)

/-- How deep values may nest. -/
def greatestDepth : Nat := 80

mutual

/-- Reads a value at a depth. -/
def value? (fuel depth : Nat) (text : Text) : Option (Written × Text) :=
  match fuel with
  | 0 => none
  | fuel + 1 =>
    match text with
    | '\x22' :: '\x22' :: '\x22' :: rest =>
      (basicLinesBody? (skipFirstBreak rest)).map fun (body, more) => (.basicLines body, more)
    | '\x27' :: '\x27' :: '\x27' :: rest =>
      (literalLinesBody? (skipFirstBreak rest)).map fun (body, more) => (.literalLines body, more)
    | '\x22' :: rest => (basicBody? rest).map fun (body, more) => (.basic body, more)
    | '\x27' :: rest => (literalBody? rest).map fun (body, more) => (.literal body, more)
    | '[' :: rest =>
      if depth < greatestDepth then
        (items? fuel (depth + 1) rest).map fun (items, more) => (.list items, more)
      else none
    | '\x7b' :: rest =>
      if depth < greatestDepth then
        (members? fuel (depth + 1) rest).map fun (members, more) => (.table members, more)
      else none
    | _ => (word? text).map fun (word, more) => (.word word, more)

/-- Reads the items of a list and its closing bracket. -/
def items? (fuel depth : Nat) (text : Text) : Option (List Written × Text) :=
  match fuel with
  | 0 => none
  | fuel + 1 =>
    match skipLines text.length text with
    | ']' :: rest => some ([], rest)
    | start => do
      let (item, rest) ← value? fuel depth start
      match skipLines rest.length rest with
      | ',' :: rest =>
        let (items, rest) ← items? fuel depth rest
        return (item :: items, rest)
      | ']' :: rest => return ([item], rest)
      | _ => none

/-- Reads the members of a table and its closing brace. -/
def members? (fuel depth : Nat) (text : Text) : Option (List (Path × Written) × Text) :=
  match fuel with
  | 0 => none
  | fuel + 1 =>
    match skipLines text.length text with
    | '\x7d' :: rest => some ([], rest)
    | start => do
      let (path, value, rest) ← member? fuel depth start
      match skipLines rest.length rest with
      | ',' :: rest =>
        let (members, rest) ← members? fuel depth rest
        return ((path, value) :: members, rest)
      | '\x7d' :: rest => return ([(path, value)], rest)
      | _ => none

/-- Reads a key, an equals sign and a value. -/
def member? (fuel depth : Nat) (text : Text) : Option (Path × Written × Text) :=
  match fuel with
  | 0 => none
  | fuel + 1 => do
    let (path, rest) ← path? text.length text
    match rest with
    | '=' :: rest =>
      let (value, rest) ← value? fuel depth (skipSpaces rest)
      return (path, value, rest)
    | _ => none

end

/-! ## Statements -/

/-- Reads a statement. -/
def statement? (text : Text) : Option (Statement × Text) :=
  match text with
  | '[' :: '[' :: rest => do
    let (path, rest) ← path? rest.length rest
    match rest with
    | ']' :: ']' :: rest => return (.listHeader path, rest)
    | _ => none
  | '[' :: rest => do
    let (path, rest) ← path? rest.length rest
    match rest with
    | ']' :: rest => return (.header path, rest)
    | _ => none
  | _ => do
    let (path, value, rest) ← member? (2 * text.length + 2) 0 text
    return (.member path value, rest)

/-- Reads the statements that are left, each on lines of its own. -/
def statementsFrom? : (fuel : Nat) → Text → Option (List Statement)
  | 0, _ => none
  | fuel + 1, text =>
    match skipLines text.length text with
    | [] => some []
    | start => do
      let (statement, rest) ← statement? start
      let rest ← lineEnd? rest
      let statements ← statementsFrom? fuel rest
      return statement :: statements

/-- The statements of a text, behind a byte order mark if it begins with one. -/
def statements? (text : Text) : Option (List Statement) :=
  let text := match text with
    | '\ufeff' :: rest => rest
    | text => text
  statementsFrom? (text.length + 1) text

end DocSite.Toml
