import DocSite.Text.Basic
import Mathlib.Data.List.TakeWhile
import Mathlib.Data.Nat.Digits.Defs

/-!
# Digits

Numbers are read from the digits in which they are written, and these are taken up to their end.
-/

namespace DocSite.Text

/-! ## Runs -/

/-- A run of characters of one kind is taken up to its end. -/
theorem takeWhile_run {p : Char → Bool} {run rest : Text} (all : ∀ c ∈ run, p c)
    (ends : ∀ c, rest.head? = some c → p c = false) : (run ++ rest).takeWhile p = run := by
  rw [List.takeWhile_append_of_pos all]
  cases rest with
  | nil => exact List.append_nil run
  | cons c rest => rw [List.takeWhile_cons_of_neg (by simp [ends c rfl]), List.append_nil]

/-! ## Digits -/

theorem isHexDigit_hexDigit {n : Nat} (small : n < 16) : isHexDigit (hexDigit n) := by
  have each : ∀ n : Fin 16, isHexDigit (hexDigit n) := by decide
  exact each ⟨n, small⟩

theorem hexValue_hexDigit {n : Nat} (small : n < 16) : hexValue (hexDigit n) = n := by
  have each : ∀ n : Fin 16, hexValue (hexDigit n) = n := by decide
  exact each ⟨n, small⟩

theorem isAsciiDigit_of_mem_ofNat {n : Nat} {c : Char} (member : c ∈ ofNat n) :
    isAsciiDigit c := by
  have digit : c.isDigit := Nat.isDigit_of_mem_toDigits (by decide) (by decide) member
  simpa [isAsciiDigit, Char.isDigit, Char.le_def] using digit

theorem ofNat_ne_nil (n : Nat) : ofNat n ≠ [] :=
  Nat.toDigits_ne_nil

theorem decimalValue_ofNat (n : Nat) : decimalValue (ofNat n) = n :=
  Nat.ofDigitChars_ten_toDigits

end DocSite.Text
