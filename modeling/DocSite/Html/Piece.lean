import DocSite.Text.Basic

/-!
# Markup

HTML as a list of pieces: tags with their attributes, and texts between them. Attribute values and
texts are held as they are meant; the special characters are escaped when a piece is written.
-/

namespace DocSite.Html

/-- The written form of a character: the five that have a meaning in markup are escaped. -/
def escapeChar (c : Char) : Text :=
  if c == '&' then "&amp;"
  else if c == '<' then "&lt;"
  else if c == '>' then "&gt;"
  else if c == '\x22' then "&quot;"
  else if c == '\x27' then "&#x27;"
  else [c]

/-- The written form of a text. -/
def escape (text : Text) : Text :=
  text.flatMap escapeChar

/-- An attribute of a tag. -/
structure Attribute where
  /-- Its name. -/
  name : Text
  /-- Its value; some attributes have none. -/
  value : Option Text
  deriving DecidableEq, Repr

namespace Attribute

/-- An attribute with a value. -/
def of (name value : Text) : Attribute :=
  { name, value := some value }

/-- An attribute without a value. -/
def flag (name : Text) : Attribute :=
  { name, value := none }

/-- Writes an attribute with a space before it. -/
def write (attr : Attribute) : Text :=
  match attr.value with
  | none => ' ' :: attr.name
  | some value => ' ' :: attr.name ++ '=' :: '\x22' :: escape value ++ ['\x22']

end Attribute

/-- A piece of markup. -/
inductive Piece
  /-- A tag that opens an element, or that is one by itself. -/
  | startTag (name : Text) (attributes : List Attribute)
  /-- A tag that closes an element. -/
  | endTag (name : Text)
  /-- Text, which is escaped. -/
  | text (content : Text)
  /-- Markup that has been written before. -/
  | markup (written : Text)
  deriving DecidableEq, Repr

namespace Piece

/-- Writes a piece. -/
def write : Piece → Text
  | startTag name attributes => '<' :: name ++ attributes.flatMap Attribute.write ++ ['>']
  | endTag name => '<' :: '/' :: name ++ ['>']
  | text content => escape content
  | markup written => written

/-- Writes pieces one after the other. -/
def writeAll (pieces : List Piece) : Text :=
  pieces.flatMap write

end Piece

end DocSite.Html
