/-!
# Text

Text is a list of characters, so every function on it is a recursion over a list. This module
holds the ASCII character classes and the searching, cutting and joining that all formats share.
-/

namespace DocSite

/-- A text, character by character. -/
abbrev Text := List Char

instance : Coe String Text := ⟨String.toList⟩

namespace Text

/-! ## ASCII classes -/

/-- A letter of the English alphabet. -/
def isAsciiLetter (c : Char) : Bool :=
  ('a' ≤ c && c ≤ 'z') || ('A' ≤ c && c ≤ 'Z')

/-- A decimal digit. -/
def isAsciiDigit (c : Char) : Bool :=
  '0' ≤ c && c ≤ '9'

/-- An ASCII letter or digit. -/
def isAsciiAlphanumeric (c : Char) : Bool :=
  isAsciiLetter c || isAsciiDigit c

/-- A hexadecimal digit of either case. -/
def isHexDigit (c : Char) : Bool :=
  isAsciiDigit c || ('a' ≤ c && c ≤ 'f') || ('A' ≤ c && c ≤ 'F')

/-- A printing ASCII character that is neither a letter nor a digit nor the space. -/
def isAsciiPunctuation (c : Char) : Bool :=
  ('!' ≤ c && c ≤ '/') || (':' ≤ c && c ≤ '@') || ('[' ≤ c && c ≤ '\x60') ||
    ('\x7b' ≤ c && c ≤ '~')

/-- The lower-case form of an ASCII letter; every other character is kept. -/
def asciiLower (c : Char) : Char :=
  if 'A' ≤ c && c ≤ 'Z' then Char.ofNat (c.toNat + 32) else c

/-- The value of a hexadecimal digit. -/
def hexValue (c : Char) : Nat :=
  if isAsciiDigit c then c.toNat - '0'.toNat
  else (asciiLower c).toNat - 'a'.toNat + 10

/-- The digit of a value below sixteen, in lower case. -/
def hexDigit (n : Nat) : Char :=
  if n < 10 then Char.ofNat ('0'.toNat + n) else Char.ofNat ('a'.toNat + (n - 10))

/-! ## Numbers -/

/-- The number that a run of decimal digits stands for. -/
def decimalValue (digits : Text) : Nat :=
  digits.foldl (fun total digit => 10 * total + (digit.toNat - '0'.toNat)) 0

/-- The number that a run of hexadecimal digits stands for. -/
def hexadecimalValue (digits : Text) : Nat :=
  digits.foldl (fun total digit => 16 * total + hexValue digit) 0

/-- A natural number in decimal digits. -/
def ofNat (n : Nat) : Text :=
  Nat.toDigits 10 n

/-! ## Searching and cutting -/

/-- Whether `text` begins with `start`. -/
def startsWith (text start : Text) : Bool :=
  start.isPrefixOf text

/-- Whether `text` begins with `start` when the case of ASCII letters is ignored. -/
def startsWithIgnoringCase (text start : Text) : Bool :=
  (start.map asciiLower).isPrefixOf ((text.take start.length).map asciiLower)

/-- Whether two texts are equal when the case of ASCII letters is ignored. -/
def equalsIgnoringCase (left right : Text) : Bool :=
  left.map asciiLower == right.map asciiLower

/-- Whether `part` occurs somewhere in a text. -/
def contains (part : Text) : Text → Bool
  | [] => part.isEmpty
  | c :: rest => startsWith (c :: rest) part || contains part rest

/-- Drops the characters at the end that satisfy `p`. -/
def dropEndWhile (p : Char → Bool) (text : Text) : Text :=
  (text.reverse.dropWhile p).reverse

/-- The number of characters at the start that satisfy `p`. -/
def countWhile (p : Char → Bool) (text : Text) : Nat :=
  (text.takeWhile p).length

/-- The pieces between the characters that satisfy `p`; there is one more of them than of those. -/
def splitAt (p : Char → Bool) : Text → List Text
  | [] => [[]]
  | c :: rest =>
    match splitAt p rest with
    | [] => [[c]]
    | piece :: pieces => if p c then [] :: piece :: pieces else (c :: piece) :: pieces

/-- Writes the texts one after the other with `separator` between neighbours. -/
def join (separator : Text) : List Text → Text
  | [] => []
  | [text] => text
  | text :: next :: rest => text ++ separator ++ join separator (next :: rest)

end Text

end DocSite
