import DocSite.Decimal.Double
import DocSite.Text.Quoted

/-!
# Reading positions and faults

JSON is read from a cursor, which knows the line and column that it is at. A column counts the
bytes since the start of the line. A fault tells what is wrong, and a failure also where.
-/

namespace DocSite.Json

/-! ## Faults -/

/-- A value that was found where another kind of value is expected. -/
inductive Found
  | null
  | boolean (value : Bool)
  | integer (value : Int)
  | fraction (negative : Bool) (magnitude : Decimal.Double)
  | string (value : Text)
  | list
  | object
  deriving DecidableEq, Repr

/-- Names a value in a message. -/
def Found.message : Found → Text
  | null => "null"
  | boolean true => "boolean `true`"
  | boolean false => "boolean `false`"
  | integer value =>
    "integer `".toList ++ (if value < 0 then ['-'] else []) ++ Text.ofNat value.natAbs ++ ['\x60']
  | fraction negative magnitude =>
    "floating point `".toList ++ (if negative then ['-'] else []) ++ magnitude.compact ++ ['\x60']
  | string value => "string ".toList ++ Text.quoted value
  | list => "sequence"
  | object => "map"

/-- What is wrong with a text. -/
inductive Fault
  | endInList
  | endInObject
  | endInString
  | endInValue
  | expectedColon
  | expectedListCommaOrEnd
  | expectedObjectCommaOrEnd
  | expectedLiteral
  | expectedValue
  | invalidEscape
  | invalidNumber
  | numberOutOfRange
  | controlCharacter
  | keyNotString
  | loneSurrogate
  | unfinishedSurrogate
  | trailingComma
  | trailingCharacters
  | tooDeep
  /-- A value of another kind is found. -/
  | wrongKind (found : Found) (expected : Text)
  /-- An object lacks a member. -/
  | missingMember (name : Text)
  /-- An object has a member twice. -/
  | repeatedMember (name : Text)
  /-- A list has too few items. -/
  | wrongLength (length : Nat) (expected : Text)
  deriving DecidableEq, Repr

/-- The message of a fault. -/
def Fault.message : Fault → Text
  | endInList => "EOF while parsing a list"
  | endInObject => "EOF while parsing an object"
  | endInString => "EOF while parsing a string"
  | endInValue => "EOF while parsing a value"
  | expectedColon => "expected `:`"
  | expectedListCommaOrEnd => "expected `,` or `]`"
  | expectedObjectCommaOrEnd => "expected `,` or `\x7d`"
  | expectedLiteral => "expected ident"
  | expectedValue => "expected value"
  | invalidEscape => "invalid escape"
  | invalidNumber => "invalid number"
  | numberOutOfRange => "number out of range"
  | controlCharacter => "control character (\\u0000-\\u001F) found while parsing a string"
  | keyNotString => "key must be a string"
  | loneSurrogate => "lone leading surrogate in hex escape"
  | unfinishedSurrogate => "unexpected end of hex escape"
  | trailingComma => "trailing comma"
  | trailingCharacters => "trailing characters"
  | tooDeep => "recursion limit exceeded"
  | wrongKind found expected =>
    "invalid type: ".toList ++ found.message ++ ", expected ".toList ++ expected
  | missingMember name => "missing field `".toList ++ name ++ ['\x60']
  | repeatedMember name => "duplicate field `".toList ++ name ++ ['\x60']
  | wrongLength length expected =>
    "invalid length ".toList ++ Text.ofNat length ++ ", expected ".toList ++ expected

/-! ## Places -/

/-- A place in a text. -/
structure Place where
  /-- The number of the line, from one. -/
  line : Nat
  /-- The number of bytes before it on its line. -/
  column : Nat
  deriving DecidableEq, Repr

namespace Place

/-- The start of a text. -/
def start : Place := ⟨1, 0⟩

/-- The place after a number of bytes of a character. -/
def passBytes (place : Place) (c : Char) (count : Nat) : Place :=
  if c == '\n' then ⟨place.line + 1, 0⟩ else { place with column := place.column + count }

/-- The place after a character. -/
def pass (place : Place) (c : Char) : Place :=
  place.passBytes c c.utf8Size

/-- The place after a text. -/
def passAll (place : Place) (text : Text) : Place :=
  text.foldl pass place

/-- The place after a number of bytes of a text. -/
def passText (place : Place) : Text → Nat → Place
  | [], _ => place
  | c :: rest, count =>
    if count = 0 then place
    else if count < c.utf8Size then place.passBytes c count
    else (place.pass c).passText rest (count - c.utf8Size)

end Place

/-- What is wrong and where. -/
structure Failure where
  /-- What is wrong. -/
  fault : Fault
  /-- Where it was noticed. -/
  place : Place
  deriving DecidableEq, Repr

/-- The message of a failure. -/
def Failure.message (failure : Failure) : Text :=
  failure.fault.message ++ " at line ".toList ++ Text.ofNat failure.place.line ++
    " column ".toList ++ Text.ofNat failure.place.column

/-! ## Cursors -/

/-- What is still to be read of a text. -/
structure Cursor where
  /-- The place that has been reached. -/
  place : Place
  /-- The text from there on. -/
  rest : Text
  deriving DecidableEq, Repr

namespace Cursor

/-- The cursor at the start of a text. -/
def of (text : Text) : Cursor := ⟨.start, text⟩

/-- Passes one character. -/
def next (cursor : Cursor) : Cursor :=
  match cursor.rest with
  | [] => cursor
  | c :: rest => ⟨cursor.place.pass c, rest⟩

/-- The place after the first byte of the next character. -/
def nextPlace (cursor : Cursor) : Place :=
  match cursor.rest with
  | [] => cursor.place
  | c :: _ => cursor.place.passBytes c 1

/-- Passes the characters that satisfy `p`. -/
def skipWhile (p : Char → Bool) (cursor : Cursor) : Cursor :=
  ⟨cursor.place.passAll (cursor.rest.takeWhile p), cursor.rest.dropWhile p⟩

/-- Passes the blanks that may stand between two tokens. -/
def skipBlank (cursor : Cursor) : Cursor :=
  cursor.skipWhile fun c => c == ' ' || c == '\n' || c == '\t' || c == '\r'

/-- A failure at the cursor. -/
def failHere {α : Type} (cursor : Cursor) (fault : Fault) : Except Failure α :=
  .error ⟨fault, cursor.place⟩

/-- A failure at the next character. -/
def failNext {α : Type} (cursor : Cursor) (fault : Fault) : Except Failure α :=
  .error ⟨fault, cursor.nextPlace⟩

end Cursor

end DocSite.Json
