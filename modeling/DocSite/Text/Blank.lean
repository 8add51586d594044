import DocSite.Text.Basic

/-!
# Blank characters

The characters with the Unicode property White_Space, and the trimming and word splitting that
go by them.
-/

namespace DocSite.Text

/-- A character with the Unicode property White_Space. -/
def isBlank (c : Char) : Bool :=
  ('\t' ≤ c && c ≤ '\r') || c == ' ' || c == '\u0085' || c == '\u00a0' || c == '\u1680' ||
    ('\u2000' ≤ c && c ≤ '\u200a') || c == '\u2028' || c == '\u2029' || c == '\u202f' ||
    c == '\u205f' || c == '\u3000'

/-- Drops the blank characters at the start. -/
def trimStart (text : Text) : Text :=
  text.dropWhile isBlank

/-- Drops the blank characters at the end. -/
def trimEnd (text : Text) : Text :=
  dropEndWhile isBlank text

/-- Drops the blank characters at both ends. -/
def trim (text : Text) : Text :=
  trimEnd (trimStart text)

/-- The maximal runs of characters that are not blank, in order. -/
def words (text : Text) : List Text :=
  (splitAt isBlank text).filter (fun word => !word.isEmpty)

end DocSite.Text
