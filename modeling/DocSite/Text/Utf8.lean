import DocSite.Text.Basic

/-!
# UTF-8

Texts as bytes and back. Bytes are decoded only in the one form that encoding gives: in the fewest
bytes, and never to a surrogate or beyond the last code point.
-/

namespace DocSite.Text

/-- Bytes in order. -/
abbrev Bytes := List UInt8

/-- The bytes of a code point. -/
def utf8OfCode (code : Nat) : List Nat :=
  if code < 0x80 then [code]
  else if code < 0x800 then [0xC0 + code / 0x40, 0x80 + code % 0x40]
  else if code < 0x10000 then
    [0xE0 + code / 0x1000, 0x80 + code / 0x40 % 0x40, 0x80 + code % 0x40]
  else
    [0xF0 + code / 0x40000, 0x80 + code / 0x1000 % 0x40, 0x80 + code / 0x40 % 0x40,
      0x80 + code % 0x40]

/-- The bytes of a character. -/
def utf8OfChar (c : Char) : Bytes :=
  (utf8OfCode c.toNat).map UInt8.ofNat

/-- The bytes of a text. -/
def toUtf8 (text : Text) : Bytes :=
  text.flatMap utf8OfChar

/-- The part of a code point that a byte after the first holds. -/
def tailValue? (byte : UInt8) : Option Nat :=
  if byte.toNat / 0x40 = 2 then some (byte.toNat % 0x40) else none

/-- A code point of at least `least` that is a character. -/
def charOfCode? (least code : Nat) : Option Char :=
  if least ≤ code ∧ code.isValidChar then some (Char.ofNat code) else none

/-- The text that bytes stand for, if they stand for one. -/
def ofUtf8? : Bytes → Option Text
  | [] => some []
  | first :: rest =>
    let n := first.toNat
    if n < 0x80 then do
      let text ← ofUtf8? rest
      return Char.ofNat n :: text
    else if 0xC0 ≤ n ∧ n < 0xE0 then
      match rest with
      | second :: rest => do
        let c ← charOfCode? 0x80 ((n - 0xC0) * 0x40 + (← tailValue? second))
        let text ← ofUtf8? rest
        return c :: text
      | [] => none
    else if 0xE0 ≤ n ∧ n < 0xF0 then
      match rest with
      | second :: third :: rest => do
        let high ← tailValue? second
        let c ← charOfCode? 0x800 ((n - 0xE0) * 0x1000 + high * 0x40 + (← tailValue? third))
        let text ← ofUtf8? rest
        return c :: text
      | _ => none
    else if 0xF0 ≤ n ∧ n < 0xF8 then
      match rest with
      | second :: third :: fourth :: rest => do
        let high ← tailValue? second
        let middle ← tailValue? third
        let c ← charOfCode? 0x10000
          ((n - 0xF0) * 0x40000 + high * 0x1000 + middle * 0x40 + (← tailValue? fourth))
        let text ← ofUtf8? rest
        return c :: text
      | _ => none
    else none

end DocSite.Text
