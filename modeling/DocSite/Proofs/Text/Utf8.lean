import DocSite.Text.Utf8

/-!
# Decoding what was encoded

The bytes of a text stand for that text and for no other. Each character is decoded from as many
bytes as it was encoded in, whatever follows them.
-/

namespace DocSite.Text

/-! ## Code points -/

theorem toNat_ofNat_byte {n : Nat} (small : n < 0x100) : (UInt8.ofNat n).toNat = n := by
  simp only [UInt8.toNat_ofNat']
  omega

theorem tailValue?_ofNat {n : Nat} (small : n < 0x40) :
    tailValue? (UInt8.ofNat (0x80 + n)) = some n := by
  rw [tailValue?, toNat_ofNat_byte (by omega), if_pos (by omega)]
  congr
  omega

theorem charOfCode?_toNat {least : Nat} {c : Char} (bound : least ≤ c.toNat) :
    charOfCode? least c.toNat = some c := by
  rw [charOfCode?, if_pos ⟨bound, c.valid⟩, Char.ofNat_toNat]

theorem toNat_lt (c : Char) : c.toNat < 0x110000 := by
  rcases c.valid with low | ⟨_, high⟩
  · change c.toNat < 0xD800 at low
    omega
  · exact high

/-! ## Characters, by the number of their bytes -/

section Bytes

variable {first second third fourth : UInt8} {low middle high : Nat} {c : Char} (rest : Bytes)

theorem ofUtf8?_one (bound : first.toNat < 0x80) :
    ofUtf8? (first :: rest) = (ofUtf8? rest).map (Char.ofNat first.toNat :: ·) := by
  rw [ofUtf8?.eq_def]
  simp only [if_pos bound]
  exact (Option.map_eq_bind ..).symm

theorem ofUtf8?_two (least : 0xC0 ≤ first.toNat) (bound : first.toNat < 0xE0)
    (second_eq : tailValue? second = some low)
    (code : charOfCode? 0x80 ((first.toNat - 0xC0) * 0x40 + low) = some c) :
    ofUtf8? (first :: second :: rest) = (ofUtf8? rest).map (c :: ·) := by
  rw [ofUtf8?.eq_def]
  simp only [if_neg (show ¬first.toNat < 0x80 by omega), if_pos (And.intro least bound),
    Option.bind_eq_bind]
  -- Not by `simp`, which would compute with the code point.
  rw [second_eq, Option.bind_some, code, Option.bind_some]
  exact (Option.map_eq_bind ..).symm

theorem ofUtf8?_three (least : 0xE0 ≤ first.toNat) (bound : first.toNat < 0xF0)
    (second_eq : tailValue? second = some middle) (third_eq : tailValue? third = some low)
    (code : charOfCode? 0x800 ((first.toNat - 0xE0) * 0x1000 + middle * 0x40 + low) = some c) :
    ofUtf8? (first :: second :: third :: rest) = (ofUtf8? rest).map (c :: ·) := by
  rw [ofUtf8?.eq_def]
  simp only [if_neg (show ¬first.toNat < 0x80 by omega),
    if_neg (show ¬(0xC0 ≤ first.toNat ∧ first.toNat < 0xE0) by omega),
    if_pos (And.intro least bound), Option.bind_eq_bind]
  rw [second_eq, Option.bind_some, third_eq, Option.bind_some, code, Option.bind_some]
  exact (Option.map_eq_bind ..).symm

theorem ofUtf8?_four (least : 0xF0 ≤ first.toNat) (bound : first.toNat < 0xF8)
    (second_eq : tailValue? second = some high) (third_eq : tailValue? third = some middle)
    (fourth_eq : tailValue? fourth = some low)
    (code : charOfCode? 0x10000
      ((first.toNat - 0xF0) * 0x40000 + high * 0x1000 + middle * 0x40 + low) = some c) :
    ofUtf8? (first :: second :: third :: fourth :: rest) = (ofUtf8? rest).map (c :: ·) := by
  rw [ofUtf8?.eq_def]
  simp only [if_neg (show ¬first.toNat < 0x80 by omega),
    if_neg (show ¬(0xC0 ≤ first.toNat ∧ first.toNat < 0xE0) by omega),
    if_neg (show ¬(0xE0 ≤ first.toNat ∧ first.toNat < 0xF0) by omega),
    if_pos (And.intro least bound), Option.bind_eq_bind]
  rw [second_eq, Option.bind_some, third_eq, Option.bind_some, fourth_eq, Option.bind_some, code,
    Option.bind_some]
  exact (Option.map_eq_bind ..).symm

end Bytes

/-- What encodes a character is decoded to it, whatever follows. -/
theorem ofUtf8?_utf8OfChar_append (c : Char) (rest : Bytes) :
    ofUtf8? (utf8OfChar c ++ rest) = (ofUtf8? rest).map (c :: ·) := by
  have last : c.toNat < 0x110000 := toNat_lt c
  have low := tailValue?_ofNat (show c.toNat % 0x40 < 0x40 by omega)
  have middle := tailValue?_ofNat (show c.toNat / 0x40 % 0x40 < 0x40 by omega)
  have high := tailValue?_ofNat (show c.toNat / 0x1000 % 0x40 < 0x40 by omega)
  rw [utf8OfChar, utf8OfCode]
  by_cases one : c.toNat < 0x80
  · have first := toNat_ofNat_byte (show c.toNat < 0x100 by omega)
    rw [if_pos one]
    have decoded := ofUtf8?_one rest (first.symm ▸ one)
    rw [first, Char.ofNat_toNat] at decoded
    exact decoded
  by_cases two : c.toNat < 0x800
  · have first := toNat_ofNat_byte (show 0xC0 + c.toNat / 0x40 < 0x100 by omega)
    have code : (0xC0 + c.toNat / 0x40 - 0xC0) * 0x40 + c.toNat % 0x40 = c.toNat := by omega
    rw [if_neg one, if_pos two]
    refine ofUtf8?_two rest (by omega) (by omega) low ?_
    rw [first, code]
    exact charOfCode?_toNat (by omega)
  by_cases three : c.toNat < 0x10000
  · have first := toNat_ofNat_byte (show 0xE0 + c.toNat / 0x1000 < 0x100 by omega)
    have code : (0xE0 + c.toNat / 0x1000 - 0xE0) * 0x1000 + c.toNat / 0x40 % 0x40 * 0x40 +
        c.toNat % 0x40 = c.toNat := by omega
    rw [if_neg one, if_neg two, if_pos three]
    refine ofUtf8?_three rest (by omega) (by omega) middle low ?_
    rw [first, code]
    exact charOfCode?_toNat (by omega)
  · have first := toNat_ofNat_byte (show 0xF0 + c.toNat / 0x40000 < 0x100 by omega)
    have code : (0xF0 + c.toNat / 0x40000 - 0xF0) * 0x40000 + c.toNat / 0x1000 % 0x40 * 0x1000 +
        c.toNat / 0x40 % 0x40 * 0x40 + c.toNat % 0x40 = c.toNat := by omega
    rw [if_neg one, if_neg two, if_neg three]
    refine ofUtf8?_four rest (by omega) (by omega) high middle low ?_
    rw [first, code]
    exact charOfCode?_toNat (by omega)

theorem ofUtf8?_toUtf8 (text : Text) : ofUtf8? (toUtf8 text) = some text := by
  induction text with
  | nil => rfl
  | cons c text induction =>
      rw [toUtf8, List.flatMap_cons, ofUtf8?_utf8OfChar_append]
      change (ofUtf8? (toUtf8 text)).map (c :: ·) = some (c :: text)
      rw [induction]
      rfl

theorem toUtf8_cons (c : Char) (text : Text) : toUtf8 (c :: text) = utf8OfChar c ++ toUtf8 text :=
  rfl

end DocSite.Text
