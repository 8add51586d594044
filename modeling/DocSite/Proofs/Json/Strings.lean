import DocSite.Json.Scan
import DocSite.Json.Value
import DocSite.Proofs.Text.Digits

/-!
# Strings are read as they were written

Every character of a string is written in one form, and from that form it is read, whatever follows.
-/

namespace DocSite.Json

/-! ## Digits of escapes -/

theorem fourHexDigits_control {c : Char} (control : c.toNat < 32) (place : Place) (rest : Text) :
    fourHexDigits ⟨place,
        '0' :: '0' :: Text.hexDigit (c.toNat / 16) :: Text.hexDigit (c.toNat % 16) :: rest⟩ =
      .ok c.toNat := by
  have highDigit := Text.isHexDigit_hexDigit (show c.toNat / 16 < 16 by omega)
  have lowDigit := Text.isHexDigit_hexDigit (show c.toNat % 16 < 16 by omega)
  have high := Text.hexValue_hexDigit (show c.toNat / 16 < 16 by omega)
  have low := Text.hexValue_hexDigit (show c.toNat % 16 < 16 by omega)
  have zero : Text.isHexDigit '0' ∧ Text.hexValue '0' = 0 := by decide
  have value : Text.hexadecimalValue
      ['0', '0', Text.hexDigit (c.toNat / 16), Text.hexDigit (c.toNat % 16)] = c.toNat := by
    simp only [Text.hexadecimalValue, List.foldl_cons, List.foldl_nil, high, low, zero.2]
    omega
  simp [fourHexDigits, highDigit, lowDigit, zero.1, value]

theorem unescape_control {c : Char} (control : c.toNat < 32) (place : Place) (rest : Text) :
    unescape ⟨place, ['u', '0', '0', Text.hexDigit (c.toNat / 16),
        Text.hexDigit (c.toNat % 16)] ++ rest⟩ = .ok (c, 5) := by
  have digits := fourHexDigits_control control (place.pass 'u') rest
  have noSurrogate : ¬(0xDC00 ≤ c.toNat ∧ c.toNat ≤ 0xDFFF) ∧
      ¬(0xD800 ≤ c.toNat ∧ c.toNat ≤ 0xDBFF) := by omega
  simp only [unescape, Cursor.next, List.cons_append, List.nil_append, digits]
  change (if _ then _ else if _ then _ else _) = _
  rw [if_neg noSurrogate.1, if_neg noSurrogate.2, Char.ofNat_toNat]

/-! ## Escapes -/

theorem scanStringFrom_skip (place : Place) (body rest : Text) :
    scanStringFrom body.length place (body ++ rest) =
      scanStringFrom 0 (place.passAll body) rest := by
  induction body generalizing place with
  | nil => rfl
  | cons c body induction => exact induction (place.pass c)

/-- Puts a character before a string that has been read. -/
def before (c : Char) (found : Text × Cursor) : Text × Cursor :=
  (c :: found.1, found.2)

theorem scanStringFrom_escape {c : Char} {body rest : Text} {place : Place}
    (meant : unescape ⟨place.pass '\\', body ++ rest⟩ = .ok (c, body.length)) :
    scanStringFrom 0 place ('\\' :: (body ++ rest)) =
      (scanStringFrom 0 ((place.pass '\\').passAll body) rest).map (before c) := by
  have skipped := scanStringFrom_skip (place.pass '\\') body rest
  rw [scanStringFrom, if_neg (by decide), if_pos (by decide), meant]
  change (scanStringFrom body.length (place.pass '\\') (body ++ rest) >>= _) = _
  rw [skipped]
  cases scanStringFrom 0 ((place.pass '\\').passAll body) rest <;> rfl

theorem scanStringFrom_plain {c : Char} (quote : c ≠ '\x22') (backslash : c ≠ '\\')
    (visible : ¬c < ' ') (place : Place) (rest : Text) :
    scanStringFrom 0 place (c :: rest) =
      (scanStringFrom 0 (place.pass c) rest).map (before c) := by
  rw [scanStringFrom, if_neg (by simpa using quote), if_neg (by simpa using backslash),
    if_neg visible]
  cases scanStringFrom 0 (place.pass c) rest <;> rfl

/-- A character is read from its written form, whatever follows. -/
theorem scanStringFrom_escapeChar (c : Char) (place : Place) (rest : Text) :
    ∃ after, scanStringFrom 0 place (escapeChar c ++ rest) =
      (scanStringFrom 0 after rest).map (before c) := by
  unfold escapeChar
  split_ifs with same backspace formFeed lineFeed carriage tab control
  · simp only [Bool.or_eq_true, beq_iff_eq] at same
    rcases same with rfl | rfl
    · exact ⟨_, scanStringFrom_escape rfl⟩
    · exact ⟨_, scanStringFrom_escape rfl⟩
  · obtain rfl := eq_of_beq backspace
    exact ⟨_, scanStringFrom_escape rfl⟩
  · obtain rfl := eq_of_beq formFeed
    exact ⟨_, scanStringFrom_escape rfl⟩
  · obtain rfl := eq_of_beq lineFeed
    exact ⟨_, scanStringFrom_escape rfl⟩
  · obtain rfl := eq_of_beq carriage
    exact ⟨_, scanStringFrom_escape rfl⟩
  · obtain rfl := eq_of_beq tab
    exact ⟨_, scanStringFrom_escape rfl⟩
  · have small : c.toNat < 32 := UInt32.lt_iff_toNat_lt.mp control
    exact ⟨_, scanStringFrom_escape (unescape_control small _ rest)⟩
  · simp only [Bool.or_eq_true, beq_iff_eq, not_or] at same
    exact ⟨_, scanStringFrom_plain same.1 same.2 control place rest⟩

/-- A string is read as it was written, and what follows it is left. -/
theorem scanStringFrom_quoted (text : Text) (place : Place) (rest : Text) :
    ∃ after, scanStringFrom 0 place (text.flatMap escapeChar ++ '\x22' :: rest) =
      .ok (text, ⟨after, rest⟩) := by
  induction text generalizing place with
  | nil => exact ⟨place.pass '\x22', rfl⟩
  | cons c text induction =>
      obtain ⟨between, read⟩ :=
        scanStringFrom_escapeChar c place (text.flatMap escapeChar ++ '\x22' :: rest)
      obtain ⟨after, readBehind⟩ := induction between
      refine ⟨after, ?_⟩
      rw [List.flatMap_cons, List.append_assoc, read, readBehind]
      rfl

theorem quote_append_inj {left right behindLeft behindRight : Text}
    (same : quote left ++ behindLeft = quote right ++ behindRight) :
    left = right ∧ behindLeft = behindRight := by
  obtain ⟨after, read⟩ := scanStringFrom_quoted left .start behindLeft
  obtain ⟨otherAfter, otherRead⟩ := scanStringFrom_quoted right .start behindRight
  simp only [quote, List.cons_append, List.append_assoc, List.nil_append, List.cons.injEq,
    true_and] at same
  rw [same, otherRead] at read
  simp only [Except.ok.injEq, Prod.mk.injEq, Cursor.mk.injEq] at read
  exact ⟨read.1.symm, read.2.2.symm⟩

end DocSite.Json
