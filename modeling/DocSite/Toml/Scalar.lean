import DocSite.Toml.Statement
import DocSite.Toml.Value

/-!
# Texts, numbers and dates in TOML

What keys, quoted texts and words stand for.
-/

namespace DocSite.Toml

/-! ## Texts -/

/-- The character of an escape that is a backslash and a letter. -/
def simpleEscape? : Char → Option Char
  | 'b' => some '\x08'
  | 't' => some '\t'
  | 'n' => some '\n'
  | 'f' => some '\x0c'
  | 'r' => some '\r'
  | 'e' => some '\x1b'
  | '\x22' => some '\x22'
  | '\\' => some '\\'
  | _ => none

/-- The number of hexadecimal digits behind the letter of an escape by code point. -/
def escapeWidth? : Char → Option Nat
  | 'x' => some 2
  | 'u' => some 4
  | 'U' => some 8
  | _ => none

/-- The character with a code point. -/
def characterOf? (code : Nat) : Option Char :=
  if h : code.isValidChar then some (Char.ofNatAux code h) else none

/-- The character that hexadecimal digits stand for. -/
def escapedCharacter (width : Nat) (rest : Text) : Except Fault Char :=
  let digits := rest.take width
  if digits.length = width ∧ digits.all Text.isHexDigit then
    match characterOf? (Text.hexadecimalValue digits) with
    | some c => .ok c
    | none => .error .noCharacter
  else .error .malformed

/-- The number of characters that a backslash at the end of a line takes away: the blanks and line
breaks behind it, if there is a line break among them. -/
def joinedLines? (rest : Text) : Option Nat :=
  let spaces := Text.countWhile isSpace rest
  match lineBreak? (rest.drop spaces) with
  | none => none
  | some _ => some (Text.countWhile (fun c => isSpace c || c == '\n' || c == '\r') rest)

/-- The text that a body with escapes stands for; `skip` characters belong to an escape that has
been read. Only in lines may a backslash end a line. -/
def unescape (lines : Bool) : (skip : Nat) → Text → Except Fault Text
  | _, [] => .ok []
  | skip + 1, _ :: rest => unescape lines skip rest
  | 0, '\\' :: c :: rest =>
    match simpleEscape? c, escapeWidth? c with
    | some escaped, _ => do return escaped :: (← unescape lines 1 (c :: rest))
    | none, some width => do
      let escaped ← escapedCharacter width rest
      return escaped :: (← unescape lines (width + 1) (c :: rest))
    | none, none =>
      match lines, joinedLines? (c :: rest) with
      | true, some count => unescape lines count (c :: rest)
      | _, _ => .error .malformed
  | 0, '\r' :: '\n' :: rest => unescape lines 0 ('\n' :: rest)
  | 0, c :: rest => do return c :: (← unescape lines 0 rest)

/-- Line breaks are line feeds. -/
def joinBreaks : Text → Text
  | '\r' :: '\n' :: rest => joinBreaks ('\n' :: rest)
  | c :: rest => c :: joinBreaks rest
  | [] => []

/-- The name that a key stands for. -/
def Key.name : Key → Except Fault Text
  | bare name => .ok name
  | basic body => unescape false 0 body
  | literal body => .ok body

/-! ## Numbers -/

/-- Whether a text consists of digits, with single underscores between some of them. -/
def isGrouped (isDigit : Char → Bool) (text : Text) : Bool :=
  (Text.splitAt (· == '_') text).all fun group => !group.isEmpty && group.all isDigit

/-- The digits of a grouped text. -/
def ungroup (text : Text) : Text :=
  text.filter (· != '_')

/-- The sign of a number, and the text behind it. -/
def signed : Text → Bool × Text
  | '-' :: rest => (true, rest)
  | '+' :: rest => (false, rest)
  | text => (false, text)

/-- Whether a text is the decimal digits of an integer: no zero stands before other digits. -/
def isDecimal (text : Text) : Bool :=
  isGrouped Text.isAsciiDigit text && (text.length == 1 || !Text.startsWith text ['0'])

/-- The number that digits of some base stand for. -/
def valueIn (base : Nat) (digits : Text) : Nat :=
  digits.foldl (fun total digit => base * total + Text.hexValue digit) 0

/-- The integer that a word with the mark of a base stands for. -/
def basedInteger? : Text → Option Nat
  | '0' :: 'x' :: digits =>
    if isGrouped Text.isHexDigit digits then some (valueIn 16 (ungroup digits)) else none
  | '0' :: 'o' :: digits =>
    if isGrouped (fun c => '0' ≤ c && c ≤ '7') digits then some (valueIn 8 (ungroup digits))
    else none
  | '0' :: 'b' :: digits =>
    if isGrouped (fun c => c == '0' || c == '1') digits then some (valueIn 2 (ungroup digits))
    else none
  | _ => none

/-- The integer that a word stands for. -/
def integer? (word : Text) : Option Int :=
  match basedInteger? word with
  | some number => some number
  | none =>
    let (negative, digits) := signed word
    if isDecimal digits then
      let magnitude : Int := Text.decimalValue (ungroup digits)
      some (if negative then -magnitude else magnitude)
    else none

/-- The value of an exponent, if it is in order; a text without one has the exponent zero. -/
def exponent? : Text → Option Int
  | [] => some 0
  | mark :: rest =>
    let (negative, digits) := signed rest
    if (mark == 'e' || mark == 'E') && isGrouped Text.isAsciiDigit digits then
      let magnitude : Int := Text.decimalValue (ungroup digits)
      some (if negative then -magnitude else magnitude)
    else none

/-- The number with a sign, digits before and behind the point, and an exponent. -/
def fractionOf (negative : Bool) (whole behind : Text) (exponent : Int) : Fraction :=
  match Decimal.Double.ofDecimal? (Text.decimalValue (whole ++ behind))
      (exponent - behind.length) with
  | some magnitude => .finite negative magnitude
  | none => .tooLarge

/-- The number with a point or an exponent that a word stands for. -/
def fraction? (word : Text) : Option Fraction :=
  let (negative, text) := signed word
  if text = "inf".toList then some (.infinite negative)
  else if text = "nan".toList then some .undefined
  else
    let isPart := fun c => Text.isAsciiDigit c || c == '_'
    let whole := text.takeWhile isPart
    if !isDecimal whole then none
    else
      match text.drop whole.length with
      | '.' :: rest =>
        let behind := rest.takeWhile isPart
        if !isGrouped Text.isAsciiDigit behind then none
        else (exponent? (rest.drop behind.length)).map
          (fractionOf negative (ungroup whole) (ungroup behind))
      | [] => none
      | rest => (exponent? rest).map (fractionOf negative (ungroup whole) [])

/-! ## Dates and times -/

/-- The number that two digits stand for, and the text behind them. -/
def twoDigits? : Text → Option (Nat × Text)
  | a :: b :: rest =>
    if Text.isAsciiDigit a && Text.isAsciiDigit b then some (Text.decimalValue [a, b], rest)
    else none
  | _ => none

/-- The number of days of a month. -/
def daysOf (year month : Nat) : Nat :=
  if month = 2 then
    if year % 4 = 0 ∧ (year % 100 ≠ 0 ∨ year % 400 = 0) then 29 else 28
  else if month = 4 ∨ month = 6 ∨ month = 9 ∨ month = 11 then 30
  else 31

/-- Passes a date. -/
def date? : Text → Option Text
  | a :: b :: c :: d :: '-' :: rest => do
    guard ([a, b, c, d].all Text.isAsciiDigit)
    let year := Text.decimalValue [a, b, c, d]
    match ← twoDigits? rest with
    | (month, '-' :: rest) =>
      let (day, rest) ← twoDigits? rest
      guard (1 ≤ month ∧ month ≤ 12 ∧ 1 ≤ day ∧ day ≤ daysOf year month)
      return rest
    | _ => none
  | _ => none

/-- Passes a part of a second. -/
def secondPart? : Text → Option Text
  | '.' :: rest =>
    let digits := rest.takeWhile Text.isAsciiDigit
    if digits.isEmpty then none else some (rest.drop digits.length)
  | text => some text

/-- Passes a time. The seconds may be missing. -/
def time? (text : Text) : Option Text := do
  match ← twoDigits? text with
  | (hour, ':' :: rest) =>
    let (minute, rest) ← twoDigits? rest
    guard (hour ≤ 23 ∧ minute ≤ 59)
    match rest with
    | ':' :: rest =>
      let (second, rest) ← twoDigits? rest
      guard (second ≤ 60)
      secondPart? rest
    | rest => return rest
  | _ => none

/-- Whether a text is the distance of a time zone, or is empty. -/
def isOffset : Text → Bool
  | [] => true
  | ['Z'] | ['z'] => true
  | sign :: rest =>
    match twoDigits? rest with
    | some (hour, ':' :: more) =>
      match twoDigits? more with
      | some (minute, []) =>
        (sign == '+' || sign == '-') && minute ≤ 59 && 60 * hour + minute ≤ 24 * 60
      | _ => false
    | _ => false

/-- Whether a word is a date, a time, or a date with a time. -/
def isDateTime (word : Text) : Bool :=
  match date? word with
  | some [] => true
  | some (mark :: rest) =>
    (mark == 'T' || mark == 't' || mark == ' ') &&
      match time? rest with
      | some offset => isOffset offset
      | none => false
  | none => time? word == some []

/-! ## Words -/

/-- The value that a word stands for. -/
def valueOfWord (word : Text) : Except Fault Value :=
  if word = "true".toList then .ok (.boolean true)
  else if word = "false".toList then .ok (.boolean false)
  else
    match integer? word, fraction? word with
    | some number, _ => .ok (.integer number)
    | none, some number => .ok (.fraction number)
    | none, none => if isDateTime word then .ok .dateTime else .error .malformed

end DocSite.Toml
