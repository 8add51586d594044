import DocSite.Text.Basic

/-!
# Words of SQL

In SQL code, the words of queries and the numbers have classes of their own. The words in quoted
texts and in comments have none.
-/

namespace DocSite.Code

/-- A part of some code and its classes, if it has classes of its own. -/
structure Token where
  /-- The classes. -/
  classes : Option Text
  /-- The code. -/
  text : Text
  deriving DecidableEq, Repr

namespace Sql

/-- A character of a word. -/
def isWordChar (c : Char) : Bool :=
  Text.isAsciiAlphanumeric c || c == '_' || '\x7f' < c

/-- The words of queries. -/
def queryWords : List Text :=
  (["and", "delete", "from", "having", "insert", "like", "limit", "or", "select", "set", "union",
    "update", "where"] : List String).map String.toList

/-- The classes of a word. -/
def wordClasses? (word : Text) : Option Text :=
  if !word.isEmpty && word.all Text.isAsciiDigit then some "hl-constant hl-numeric hl-sql".toList
  else if queryWords.contains (word.map Text.asciiLower) then
    some "hl-keyword hl-other hl-DML hl-sql".toList
  else none

/-- What kind of code has been reached. -/
inductive Mode
  /-- Words and signs. -/
  | code
  /-- A text between two of a certain mark. -/
  | quoted (mark : Char)
  /-- A comment up to the end of its line. -/
  | comment
  deriving DecidableEq, Repr

/-- The mode behind a part of the code. -/
def Mode.after (mode : Mode) (part : Text) (rest : List Text) : Mode :=
  match mode with
  | .code =>
    match part with
    | [c] =>
      if ['\x27', '\x22', '\x60'].contains c then .quoted c
      else if c == '-' && rest.head? == some ['-'] then .comment
      else .code
    | _ => .code
  | .quoted mark => if part = [mark] then .code else mode
  | .comment => if part = ['\n'] then .code else mode

/-- Gives the parts of some code their classes. -/
def markParts (mode : Mode) : List Text → List Token
  | [] => []
  | part :: rest =>
    let classes := if mode = .code then wordClasses? part else none
    ⟨classes, part⟩ :: markParts (mode.after part rest) rest

/-- The words and signs of some code with their classes. -/
def tokens (code : Text) : List Token :=
  markParts .code (code.splitBy fun a b => isWordChar a && isWordChar b)

end Sql

end DocSite.Code
