import DocSite.Proofs.Text.Digits
import DocSite.Proofs.Text.Utf8
import DocSite.Web.Uri
import Mathlib.Data.List.Forall2

/-!
# Percent forms

A text can be written as a path in many ways: each character that may stand in a path is kept, or is
replaced by its bytes, in digits of either case. All of them are read as that text, once.
-/

namespace DocSite.Web

/-- A percent sign and two digits that stand for a byte. -/
def IsEscape (written : Text) (byte : UInt8) : Prop :=
  ∃ high low, written = ['%', high, low] ∧ Text.isHexDigit high ∧ Text.isHexDigit low ∧
    Text.hexadecimalValue [high, low] = byte.toNat

/-- The first text is a way to write the second one. -/
inductive PercentForm : Text → Text → Prop
  | nil : PercentForm [] []
  | kept {c : Char} {written meant : Text} (plain : Target.isPathChar c) (other : c ≠ '%')
      (behind : PercentForm written meant) : PercentForm (c :: written) (c :: meant)
  | escaped {c : Char} {escapes : List Text} {written meant : Text}
      (bytes : List.Forall₂ IsEscape escapes (Text.utf8OfChar c))
      (behind : PercentForm written meant) :
      PercentForm (escapes.flatten ++ written) (c :: meant)

/-! ## Reading -/

theorem percentDecode_kept {c : Char} (other : c ≠ '%') (rest : Text) :
    percentDecode (c :: rest) = Text.utf8OfChar c ++ percentDecode rest := by
  simp [percentDecode, percentDecodeFrom, other]

theorem percentDecode_escape {escape : Text} {byte : UInt8} (isEscape : IsEscape escape byte)
    (rest : Text) : percentDecode (escape ++ rest) = byte :: percentDecode rest := by
  obtain ⟨high, low, rfl, highDigit, lowDigit, value⟩ := isEscape
  simp [percentDecode, percentDecodeFrom, highDigit, lowDigit, value]

theorem percentDecode_escapes {escapes : List Text} {bytes : Text.Bytes}
    (areEscapes : List.Forall₂ IsEscape escapes bytes) (rest : Text) :
    percentDecode (escapes.flatten ++ rest) = bytes ++ percentDecode rest := by
  induction areEscapes with
  | nil => rfl
  | cons isEscape _ induction =>
      rw [List.flatten_cons, List.append_assoc, percentDecode_escape isEscape, induction]
      rfl

namespace PercentForm

variable {written meant : Text}

theorem percentDecode_eq (form : PercentForm written meant) :
    percentDecode written = Text.toUtf8 meant := by
  induction form with
  | nil => rfl
  | kept plain other behind induction =>
      rw [percentDecode_kept other, induction, Text.toUtf8_cons]
  | escaped bytes behind induction =>
      rw [percentDecode_escapes bytes, induction, Text.toUtf8_cons]

/-- Whatever form a text is written in, it is read as itself. -/
theorem read_eq (form : PercentForm written meant) :
    Text.ofUtf8? (percentDecode written) = some meant := by
  rw [form.percentDecode_eq, Text.ofUtf8?_toUtf8]

theorem append {behind meantBehind : Text} (form : PercentForm written meant)
    (formBehind : PercentForm behind meantBehind) :
    PercentForm (written ++ behind) (meant ++ meantBehind) := by
  induction form with
  | nil => exact formBehind
  | kept plain other _ induction => exact .kept plain other induction
  | escaped bytes _ induction =>
      rw [List.append_assoc]
      exact .escaped bytes induction

end PercentForm

/-! ## Characters of paths -/

theorem isPathChar_of_isAsciiAlphanumeric {c : Char} (plain : Text.isAsciiAlphanumeric c) :
    Target.isPathChar c := by
  simp only [Text.isAsciiAlphanumeric, Text.isAsciiLetter, Text.isAsciiDigit, Target.isPathChar,
    Bool.or_eq_true, Bool.and_eq_true, decide_eq_true_eq, Char.le_def,
    UInt32.le_iff_toNat_le] at plain ⊢
  simp at plain ⊢
  omega

theorem isPathChar_of_isHexDigit {c : Char} (digit : Text.isHexDigit c) : Target.isPathChar c := by
  apply isPathChar_of_isAsciiAlphanumeric
  simp only [Text.isHexDigit, Text.isAsciiAlphanumeric, Text.isAsciiLetter, Text.isAsciiDigit,
    Bool.or_eq_true, Bool.and_eq_true, decide_eq_true_eq, Char.le_def,
    UInt32.le_iff_toNat_le] at digit ⊢
  simp at digit ⊢
  omega

theorem isPathChar_of_mem_escape {escape : Text} {byte : UInt8} (isEscape : IsEscape escape byte) :
    ∀ c ∈ escape, Target.isPathChar c := by
  obtain ⟨high, low, rfl, highDigit, lowDigit, -⟩ := isEscape
  have sign : Target.isPathChar '%' := by decide
  simp [sign, isPathChar_of_isHexDigit highDigit, isPathChar_of_isHexDigit lowDigit]

theorem isPathChar_of_mem_escapes {escapes : List Text} {bytes : Text.Bytes}
    (areEscapes : List.Forall₂ IsEscape escapes bytes) :
    ∀ c ∈ escapes.flatten, Target.isPathChar c := by
  induction areEscapes with
  | nil => simp
  | cons isEscape _ induction =>
      rw [List.flatten_cons, List.forall_mem_append]
      exact ⟨isPathChar_of_mem_escape isEscape, induction⟩

theorem PercentForm.isPathChar {written meant : Text} (form : PercentForm written meant) :
    ∀ c ∈ written, Target.isPathChar c := by
  induction form with
  | nil => simp
  | kept plain _ _ induction => exact List.forall_mem_cons.mpr ⟨plain, induction⟩
  | escaped bytes _ induction =>
      rw [List.forall_mem_append]
      exact ⟨isPathChar_of_mem_escapes bytes, induction⟩

/-! ## Encoding -/

/-- A byte behind a percent sign. -/
def escapeByte (byte : UInt8) : Text :=
  ['%', Text.hexDigit (byte.toNat / 16), Text.hexDigit (byte.toNat % 16)]

/-- Writes a text as a path, in which some characters are kept. -/
def percentEncode (isKept : Char → Bool) (text : Text) : Text :=
  text.flatMap fun c =>
    if isKept c then [c] else ((Text.utf8OfChar c).map escapeByte).flatten

theorem isEscape_escapeByte (byte : UInt8) : IsEscape (escapeByte byte) byte := by
  have bound : byte.toNat < 256 := byte.toNat_lt
  have high := Text.hexValue_hexDigit (show byte.toNat / 16 < 16 by omega)
  have low := Text.hexValue_hexDigit (show byte.toNat % 16 < 16 by omega)
  refine ⟨_, _, rfl, Text.isHexDigit_hexDigit (by omega), Text.isHexDigit_hexDigit (by omega), ?_⟩
  simp only [Text.hexadecimalValue, List.foldl_cons, List.foldl_nil, high, low]
  omega

/-- An encoder may keep any characters of paths other than the percent sign. -/
theorem percentForm_percentEncode {isKept : Char → Bool}
    (plain : ∀ c, isKept c → Target.isPathChar c ∧ c ≠ '%') (text : Text) :
    PercentForm (percentEncode isKept text) text := by
  induction text with
  | nil => exact .nil
  | cons c text induction =>
      rw [percentEncode, List.flatMap_cons]
      by_cases kept : isKept c
      · rw [if_pos kept]
        exact .kept (plain c kept).1 (plain c kept).2 induction
      · rw [if_neg kept]
        refine .escaped ?_ induction
        rw [List.forall₂_map_left_iff, List.forall₂_same]
        exact fun byte _ => isEscape_escapeByte byte

/-- Letters and digits are kept, and all other characters encoded. -/
theorem percentForms_alphanumeric (texts : List Text) :
    List.Forall₂ PercentForm (texts.map (percentEncode Text.isAsciiAlphanumeric)) texts := by
  have plain : ∀ c, Text.isAsciiAlphanumeric c → Target.isPathChar c ∧ c ≠ '%' := by
    refine fun c kept => ⟨isPathChar_of_isAsciiAlphanumeric kept, ?_⟩
    rintro rfl
    exact absurd kept (by decide)
  rw [List.forall₂_map_left_iff, List.forall₂_same]
  exact fun text _ => percentForm_percentEncode plain text

end DocSite.Web
