import DocSite.Html.EntityTable

/-!
# Character references

Reading `&name;`, `&#38;` and `&#x26;` as the text that they stand for.
-/

namespace DocSite.Html

/-- The code points written in an entry of the table after the colon. -/
def entryImage (codes : Text) : Text :=
  (Text.splitAt (· == ',') codes).map fun code => Char.ofNat (Text.hexadecimalValue code)

/-- The image of the first entry whose name, up to the colon, is `name`. -/
def findEntry (name : Text) : List Text → Option Text
  | [] => none
  | entry :: entries =>
    if entry.takeWhile (· != ':') == name then
      some (entryImage ((entry.dropWhile (· != ':')).drop 1))
    else findEntry name entries

/-- The text that a named character stands for. -/
def namedEntity? : Text → Option Text
  | [] => none
  | first :: rest =>
    match entityTable.lookup first with
    | none => none
    | some lines =>
      findEntry rest (lines.flatMap fun line => Text.splitAt (· == ' ') line.toList)

/-- The character with a given code point. The replacement character stands for zero and for
numbers that are no code points of characters. -/
def charOfCode (code : Nat) : Char :=
  if code == 0 then '\ufffd'
  else if h : code.isValidChar then Char.ofNatAux code h
  else '\ufffd'

/-- A character reference at the start of a text, whose first character is the ampersand: how many
characters it takes and what it stands for. Numbers have at most seven decimal or six hexadecimal
digits. -/
def characterReference? (text : Text) : Option (Nat × Text) :=
  match text.drop 1 with
  | '#' :: rest =>
    let (intro, digits, code) :=
      match rest with
      | 'x' :: more | 'X' :: more =>
        let digits := (more.take 6).takeWhile Text.isHexDigit
        (3, digits, Text.hexadecimalValue digits)
      | _ =>
        let digits := (rest.take 7).takeWhile Text.isAsciiDigit
        (2, digits, Text.decimalValue digits)
    let length := intro + digits.length
    if digits.isEmpty || (text.drop length).head? != some ';' then none
    else some (length + 1, [charOfCode code])
  | rest =>
    let name := rest.takeWhile Text.isAsciiAlphanumeric
    if (rest.drop name.length).head? == some ';' then
      (namedEntity? name).map fun image => (name.length + 2, image)
    else none

end DocSite.Html
