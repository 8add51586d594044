import DocSite.Json.Cursor

/-!
# Literals, strings and numbers

The parts of a JSON text that hold no other parts. Each is read from a cursor behind its first
character, and gives the cursor behind it. A text of which nothing is kept may hold half of a
surrogate pair, and its numbers may be of any size.
-/

namespace DocSite.Json

open Cursor

/-! ## Literals -/

/-- Reads the letters that must follow. -/
def scanLiteral (expected : Text) (cursor : Cursor) : Except Failure Cursor :=
  match expected with
  | [] => .ok cursor
  | letter :: more =>
    match cursor.rest with
    | [] => cursor.failHere .endInValue
    | c :: _ =>
      if c == letter then scanLiteral more cursor.next else cursor.failNext .expectedLiteral

/-! ## Strings -/

/-- The number of bytes of a text. -/
def byteLength : Text → Nat
  | [] => 0
  | c :: rest => c.utf8Size + byteLength rest

/-- The number that the next four characters stand for. -/
def fourHexDigits (cursor : Cursor) : Except Failure Nat :=
  let digits := cursor.rest.take 4
  if digits.length = 4 ∧ digits.all Text.isHexDigit then .ok (Text.hexadecimalValue digits)
  else if byteLength digits < 4 then .error ⟨.endInString, cursor.place.passAll cursor.rest⟩
  else .error ⟨.invalidEscape, cursor.place.passText cursor.rest 4⟩

/-- Passes a number of characters. -/
def skipMany : Nat → Cursor → Cursor
  | 0, cursor => cursor
  | count + 1, cursor => skipMany count cursor.next

/-- The second half of a surrogate pair, which must follow the first half. -/
def secondHalf (cursor : Cursor) : Except Failure Nat :=
  match cursor.rest with
  | [] => cursor.failHere .endInString
  | '\\' :: rest =>
    match rest with
    | [] => cursor.next.failHere .endInString
    | 'u' :: _ => do
      let half ← fourHexDigits cursor.next.next
      if 0xDC00 ≤ half ∧ half ≤ 0xDFFF then .ok half
      else (skipMany 6 cursor).failHere .loneSurrogate
    | _ => cursor.next.failNext .unfinishedSurrogate
  | _ => cursor.failNext .unfinishedSurrogate

/-- The character that an escape stands for and its length, behind the backslash. -/
def unescape (cursor : Cursor) : Except Failure (Char × Nat) :=
  match cursor.rest with
  | [] => cursor.failHere .endInString
  | '\x22' :: _ => .ok ('\x22', 1)
  | '\\' :: _ => .ok ('\\', 1)
  | '/' :: _ => .ok ('/', 1)
  | 'b' :: _ => .ok ('\x08', 1)
  | 'f' :: _ => .ok ('\x0c', 1)
  | 'n' :: _ => .ok ('\n', 1)
  | 'r' :: _ => .ok ('\r', 1)
  | 't' :: _ => .ok ('\t', 1)
  | 'u' :: _ => do
    let unit ← fourHexDigits cursor.next
    let behind := skipMany 5 cursor
    if 0xDC00 ≤ unit ∧ unit ≤ 0xDFFF then behind.failHere .loneSurrogate
    else if 0xD800 ≤ unit ∧ unit ≤ 0xDBFF then
      let half ← secondHalf behind
      .ok (Char.ofNat ((unit - 0xD800) * 0x400 + (half - 0xDC00) + 0x10000), 11)
    else .ok (Char.ofNat unit, 5)
  | _ => cursor.failNext .invalidEscape

/-- Reads a string; the first `skip` characters belong to an escape. -/
def scanStringFrom : (skip : Nat) → Place → Text → Except Failure (Text × Cursor)
  | _, place, [] => .error ⟨.endInString, place⟩
  | skip + 1, place, c :: rest => scanStringFrom skip (place.pass c) rest
  | 0, place, c :: rest =>
    let behind := place.pass c
    if c == '\x22' then .ok ([], ⟨behind, rest⟩)
    else if c == '\\' then do
      let (meant, length) ← unescape ⟨behind, rest⟩
      let (text, cursor) ← scanStringFrom length behind rest
      .ok (meant :: text, cursor)
    else if c < ' ' then .error ⟨.controlCharacter, behind⟩
    else do
      let (text, cursor) ← scanStringFrom 0 behind rest
      .ok (c :: text, cursor)

/-- Reads a string. -/
def scanString (cursor : Cursor) : Except Failure (Text × Cursor) :=
  scanStringFrom 0 cursor.place cursor.rest

/-- The length of an escape of which nothing is kept. -/
def escapeLength (cursor : Cursor) : Except Failure Nat :=
  match cursor.rest with
  | [] => cursor.failHere .endInString
  | c :: _ =>
    if ['\x22', '\\', '/', 'b', 'f', 'n', 'r', 't'].contains c then .ok 1
    else if c == 'u' then do
      let _ ← fourHexDigits cursor.next
      .ok 5
    else cursor.failNext .invalidEscape

/-- Passes a string; the first `skip` characters belong to an escape. -/
def skipStringFrom : (skip : Nat) → Place → Text → Except Failure Cursor
  | _, place, [] => .error ⟨.endInString, place⟩
  | skip + 1, place, c :: rest => skipStringFrom skip (place.pass c) rest
  | 0, place, c :: rest =>
    let behind := place.pass c
    if c == '\x22' then .ok ⟨behind, rest⟩
    else if c == '\\' then do
      let length ← escapeLength ⟨behind, rest⟩
      skipStringFrom length behind rest
    else if c < ' ' then .error ⟨.controlCharacter, place⟩
    else skipStringFrom 0 behind rest

/-- Passes a string. -/
def skipString (cursor : Cursor) : Except Failure Cursor :=
  skipStringFrom 0 cursor.place cursor.rest

/-! ## Numbers -/

/-- Passes digits. -/
def skipDigits (cursor : Cursor) : Cursor :=
  cursor.skipWhile Text.isAsciiDigit

/-- Passes the exponent of a number, which starts at the cursor. -/
def skipExponent (cursor : Cursor) : Except Failure Cursor :=
  let cursor := cursor.next
  let cursor := match cursor.rest with
    | '+' :: _ => cursor.next
    | '-' :: _ => cursor.next
    | _ => cursor
  match cursor.rest with
  | [] => cursor.failHere .invalidNumber
  | c :: _ => if Text.isAsciiDigit c then .ok (skipDigits cursor) else cursor.failNext .invalidNumber

/-- Passes the exponent of a number if there is one. -/
def skipExponent? (cursor : Cursor) : Except Failure Cursor :=
  match cursor.rest with
  | 'e' :: _ => skipExponent cursor
  | 'E' :: _ => skipExponent cursor
  | _ => .ok cursor

/-- Passes what follows the integer part of a number. -/
def skipFraction (cursor : Cursor) : Except Failure Cursor :=
  match cursor.rest with
  | '.' :: rest =>
    match rest with
    | c :: _ =>
      if Text.isAsciiDigit c then skipExponent? (skipDigits cursor.next)
      else cursor.next.failNext .invalidNumber
    | [] => cursor.next.failNext .invalidNumber
  | _ => skipExponent? cursor

/-- Passes a number behind its sign. -/
def skipNumber (cursor : Cursor) : Except Failure Cursor :=
  match cursor.rest with
  | [] => cursor.failHere .invalidNumber
  | '0' :: rest =>
    match rest with
    | c :: _ =>
      if Text.isAsciiDigit c then cursor.next.failNext .invalidNumber else skipFraction cursor.next
    | [] => .ok cursor.next
  | c :: _ =>
    if Text.isAsciiDigit c then skipFraction (skipDigits cursor)
    else cursor.failNext .invalidNumber

/-- The greatest number of 64 bits. -/
def greatestWord : Nat := Nat.pow 2 64 - 1

/-- Takes digits for as long as the number fits into 64 bits; gives the number, how many digits
were taken and how many were not. -/
def takeDigits : (total taken : Nat) → Text → Nat × Nat × Nat
  | total, taken, [] => (total, taken, 0)
  | total, taken, digit :: rest =>
    let more := 10 * total + Text.decimalValue [digit]
    if more ≤ greatestWord then takeDigits more (taken + 1) rest
    else (total, taken, (digit :: rest).length)

/-- The power of ten as a number of double precision. -/
def powerOfTen (power : Nat) : Decimal.Double :=
  (Decimal.Double.ofDecimal? 1 power).getD .zero

/-- Divides by powers of ten, no more than `10 ^ 308` at a time, in at most `steps` steps. -/
def shrink : (steps : Nat) → Decimal.Double → Nat → Decimal.Double
  | 0, _, _ => .zero
  | steps + 1, magnitude, power =>
    if power ≤ 308 then (magnitude.div? (powerOfTen power)).getD .zero
    else shrink steps ((magnitude.div? (powerOfTen 308)).getD .zero) (power - 308)

/-- The number `significand * 10 ^ power`, unless it is too large. The significand and the power of
ten are rounded before they are multiplied or divided. -/
def combine? (significand : Nat) (power : Int) : Option Decimal.Double :=
  if significand = 0 then some .zero
  else do
    let number ← Decimal.Double.nearest? significand 1
    if power < 0 then some (shrink 4 number (-power).toNat)
    else if 308 < power then none
    else number.mul? (powerOfTen power.toNat)

/-- Finishes a number that has a fraction or an exponent. -/
def finish (negative : Bool) (significand : Nat) (power : Int) (cursor : Cursor) :
    Except Failure (Found × Cursor) :=
  match combine? significand power with
  | some magnitude => .ok (.fraction negative magnitude, cursor)
  | none => cursor.failHere .numberOutOfRange

/-- The number of digits after which an exponent exceeds 31 bits, if it does. -/
def exponentOverflow? : (total : Nat) → Text → Option Nat
  | _, [] => none
  | total, digit :: rest =>
    let more := 10 * total + Text.decimalValue [digit]
    if more < Nat.pow 2 31 then (exponentOverflow? more rest).map (· + 1) else some 1

/-- Reads the exponent of a number, which starts at the cursor. -/
def scanExponent (negative : Bool) (significand : Nat) (power : Int) (cursor : Cursor) :
    Except Failure (Found × Cursor) :=
  let cursor := cursor.next
  let (shrinks, cursor) := match cursor.rest with
    | '+' :: _ => (false, cursor.next)
    | '-' :: _ => (true, cursor.next)
    | _ => (false, cursor)
  match cursor.rest with
  | [] => cursor.failHere .endInValue
  | c :: _ =>
    if !Text.isAsciiDigit c then cursor.failNext .invalidNumber
    else
      let digits := cursor.rest.takeWhile Text.isAsciiDigit
      match exponentOverflow? 0 digits with
      | some count =>
        if significand ≠ 0 ∧ !shrinks then (skipMany count cursor).failHere .numberOutOfRange
        else .ok (.fraction negative .zero, skipDigits cursor)
      | none =>
        let shift : Int := Text.decimalValue digits
        finish negative significand (if shrinks then power - shift else power + shift)
          (skipDigits cursor)

/-- Reads what follows the integer part of a number; `power` counts the digits of that part that
were left out. -/
def scanFraction (negative : Bool) (significand power : Nat) (cursor : Cursor) :
    Except Failure (Found × Cursor) :=
  match cursor.rest with
  | '.' :: _ =>
    let cursor := cursor.next
    let digits := cursor.rest.takeWhile Text.isAsciiDigit
    if digits.isEmpty then
      match cursor.rest with
      | [] => cursor.failNext .endInValue
      | _ => cursor.failNext .invalidNumber
    else
      let (significand, taken, _) := takeDigits significand 0 digits
      let power : Int := power - taken
      let cursor := skipDigits cursor
      match cursor.rest with
      | 'e' :: _ => scanExponent negative significand power cursor
      | 'E' :: _ => scanExponent negative significand power cursor
      | _ => finish negative significand power cursor
  | 'e' :: _ => scanExponent negative significand power cursor
  | 'E' :: _ => scanExponent negative significand power cursor
  | _ =>
    if 0 < power then finish negative significand power cursor
    else if !negative then .ok (.integer significand, cursor)
    else if 0 < significand ∧ significand ≤ Nat.pow 2 63 then .ok (.integer (-significand), cursor)
    else finish negative significand 0 cursor

/-- Reads a number behind its sign. -/
def scanNumber (negative : Bool) (cursor : Cursor) : Except Failure (Found × Cursor) :=
  match cursor.rest with
  | [] => cursor.failHere .endInValue
  | '0' :: rest =>
    match rest with
    | c :: _ =>
      if Text.isAsciiDigit c then cursor.next.failNext .invalidNumber
      else scanFraction negative 0 0 cursor.next
    | [] => scanFraction negative 0 0 cursor.next
  | c :: _ =>
    if Text.isAsciiDigit c then
      let (significand, _, left) := takeDigits 0 0 (cursor.rest.takeWhile Text.isAsciiDigit)
      scanFraction negative significand left (skipDigits cursor)
    else cursor.failNext .invalidNumber

end DocSite.Json
