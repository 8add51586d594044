import DocSite.Text.Basic

/-!
# Writing JSON

A JSON value is written on one line without blanks, or over several lines with an indentation of
two spaces for each level.
-/

namespace DocSite

/-- A value to be written as JSON. -/
inductive Json
  | null
  | string (value : Text)
  | number (value : Nat)
  | list (items : List Json)
  | object (members : List (Text × Json))

namespace Json

/-- The form of a character in a string. -/
def escapeChar (c : Char) : Text :=
  if c == '\x22' || c == '\\' then ['\\', c]
  else if c == '\x08' then ['\\', 'b']
  else if c == '\x0c' then ['\\', 'f']
  else if c == '\n' then ['\\', 'n']
  else if c == '\r' then ['\\', 'r']
  else if c == '\t' then ['\\', 't']
  else if c < ' ' then
    ['\\', 'u', '0', '0', Text.hexDigit (c.toNat / 16), Text.hexDigit (c.toNat % 16)]
  else [c]

/-- Writes a string. -/
def quote (text : Text) : Text :=
  '\x22' :: text.flatMap escapeChar ++ ['\x22']

/-! ## On one line -/

mutual

/-- Writes a value without blanks. -/
def compact : Json → Text
  | null => "null"
  | string value => quote value
  | number value => Text.ofNat value
  | list items => '[' :: compactItems items ++ [']']
  | object members => '\x7b' :: compactMembers members ++ ['\x7d']

/-- Writes the items of a list with commas between them. -/
def compactItems : List Json → Text
  | [] => []
  | [item] => compact item
  | item :: next :: rest => compact item ++ ',' :: compactItems (next :: rest)

/-- Writes the members of an object with commas between them. -/
def compactMembers : List (Text × Json) → Text
  | [] => []
  | [(name, value)] => quote name ++ ':' :: compact value
  | (name, value) :: next :: rest =>
    quote name ++ ':' :: compact value ++ ',' :: compactMembers (next :: rest)

end

/-! ## On several lines -/

/-- A line break and the indentation of a level. -/
def newLine (level : Nat) : Text :=
  '\n' :: List.replicate (2 * level) ' '

mutual

/-- Writes a value that starts on a line of some level. -/
def indented (level : Nat) : Json → Text
  | null => "null"
  | string value => quote value
  | number value => Text.ofNat value
  | list [] => "[]"
  | list (item :: rest) =>
    '[' :: indentedItems (level + 1) (item :: rest) ++ newLine level ++ [']']
  | object [] => "\x7b\x7d"
  | object (member :: rest) =>
    '\x7b' :: indentedMembers (level + 1) (member :: rest) ++ newLine level ++ ['\x7d']

/-- Writes the items of a list, each on lines of its own. -/
def indentedItems (level : Nat) : List Json → Text
  | [] => []
  | [item] => newLine level ++ indented level item
  | item :: next :: rest =>
    newLine level ++ indented level item ++ ',' :: indentedItems level (next :: rest)

/-- Writes the members of an object, each on lines of its own. -/
def indentedMembers (level : Nat) : List (Text × Json) → Text
  | [] => []
  | [(name, value)] => newLine level ++ quote name ++ ": ".toList ++ indented level value
  | (name, value) :: next :: rest =>
    newLine level ++ quote name ++ ": ".toList ++ indented level value ++
      ',' :: indentedMembers level (next :: rest)

end

/-- Writes a value over several lines. -/
def pretty (value : Json) : Text :=
  indented 0 value

end Json

end DocSite
