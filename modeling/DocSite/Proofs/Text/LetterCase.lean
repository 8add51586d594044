import DocSite.Text.Blank
import DocSite.Text.LetterCase
import Mathlib.Data.Char

/-!
# Lower-casing

What has been lower-cased is not changed by lower-casing it again: no range of code points is mapped
to where another one, or the range itself, lies. Blank characters are kept, and they part a text:
each side of them is lower-cased by itself, since the rule for the final sigma does not look past
them.
-/

namespace DocSite.Text

/-! ## Ranges -/

namespace CaseRange

/-- The first code point that a range is mapped to. -/
def first (range : CaseRange) : Nat :=
  (Int.ofNat range.low + range.shift).toNat

/-- The last code point that a range is mapped to. -/
def last (range : CaseRange) : Nat :=
  (Int.ofNat range.high + range.shift).toNat

/-- Whether a range is mapped past another one: below it, above it, or to the code points that the
other one leaves out because it covers every second one. -/
def misses (range other : CaseRange) : Bool :=
  range.last < other.low || other.high < range.first ||
    (other.step == 2 && (range.step == 2 || range.low == range.high) &&
      (range.first + other.low) % 2 == 1)

theorem covers_iff {range : CaseRange} {n : Nat} :
    range.covers n ↔ range.low ≤ n ∧ n ≤ range.high ∧ (n - range.low) % range.step = 0 := by
  simp only [covers, Bool.and_eq_true, decide_eq_true_eq, beq_iff_eq, and_assoc]

theorem misses_iff {range other : CaseRange} :
    range.misses other ↔ (range.last < other.low ∨ other.high < range.first) ∨
      (other.step = 2 ∧ (range.step = 2 ∨ range.low = range.high)) ∧
        (range.first + other.low) % 2 = 1 := by
  simp only [misses, Bool.or_eq_true, Bool.and_eq_true, decide_eq_true_eq, beq_iff_eq]

theorem not_covers_of_misses {range other : CaseRange} {n : Nat} (missed : range.misses other)
    (natural : 0 ≤ Int.ofNat range.low + range.shift) (covered : range.covers n) :
    ¬other.covers (Int.ofNat n + range.shift).toNat := by
  rw [covers_iff] at covered ⊢
  rw [misses_iff, first, last] at missed
  obtain ⟨low, high, even⟩ := covered
  rintro ⟨above, below, stepped⟩
  simp only [Int.ofNat_eq_natCast] at *
  rcases missed with (beyond | before) | ⟨⟨every, second | single⟩, odd⟩
  · omega
  · omega
  · rw [every] at stepped
    rw [second] at even
    omega
  · rw [every] at stepped
    omega

end CaseRange

/-- The capital letters of the English alphabet. -/
def asciiCapitals : CaseRange := ⟨0x41, 0x5a, 1, 32⟩

/-- The ranges of the characters that lower-casing replaces with one other character. -/
def shiftedRanges : List CaseRange :=
  asciiCapitals :: lowerRanges

/-- The capital letter that becomes two characters. -/
def dottedCapital : CaseRange := ⟨0x130, 0x130, 1, 0⟩

/-- The ranges of the characters that lower-casing changes. -/
def changedRanges : List CaseRange :=
  dottedCapital :: shiftedRanges

theorem misses_of_mem {range other : CaseRange} (shifted : range ∈ shiftedRanges)
    (changed : other ∈ changedRanges) : range.misses other := by
  have all : (shiftedRanges.all fun range => changedRanges.all range.misses) = true := by
    decide +kernel
  exact List.all_eq_true.mp (List.all_eq_true.mp all range shifted) other changed

theorem natural_of_mem : ∀ range ∈ shiftedRanges, 0 ≤ Int.ofNat range.low + range.shift := by
  decide +kernel

/-! ## Characters that are kept -/

/-- A character that lower-casing keeps. -/
def IsSmall (c : Char) : Prop :=
  ∀ range ∈ changedRanges, ¬range.covers c.toNat

instance : DecidablePred IsSmall := fun c =>
  inferInstanceAs (Decidable (∀ range ∈ changedRanges, ¬range.covers c.toNat))

theorem isSmall_of_covers {range : CaseRange} {n : Nat} (shifted : range ∈ shiftedRanges)
    (covered : range.covers n) : IsSmall (Char.ofNat (Int.ofNat n + range.shift).toNat) := by
  intro other changed
  by_cases valid : (Int.ofNat n + range.shift).toNat.isValidChar
  · rw [Char.ofNat, dif_pos valid]
    exact CaseRange.not_covers_of_misses (misses_of_mem shifted changed)
      (natural_of_mem range shifted) covered
  · rw [Char.ofNat, dif_neg valid]
    have positive : ∀ other ∈ changedRanges, ¬other.covers 0 := by decide +kernel
    exact positive other changed

theorem covers_asciiCapitals_iff {c : Char} :
    asciiCapitals.covers c.toNat ↔ ('A' ≤ c && c ≤ 'Z') = true := by
  rw [CaseRange.covers_iff, Bool.and_eq_true, decide_eq_true_eq, decide_eq_true_eq, Char.le_def,
    Char.le_def, UInt32.le_iff_toNat_le, UInt32.le_iff_toNat_le]
  have every : asciiCapitals.step = 1 := rfl
  rw [every, Nat.mod_one]
  exact ⟨fun ⟨low, high, _⟩ => ⟨low, high⟩, fun ⟨low, high⟩ => ⟨low, high, rfl⟩⟩

theorem covers_dottedCapital_iff {c : Char} : dottedCapital.covers c.toNat ↔ c = '\u0130' := by
  rw [CaseRange.covers_iff]
  constructor
  · rintro ⟨low, high, -⟩
    exact Char.toNat_inj.mp (Nat.le_antisymm high low)
  · rintro rfl
    exact ⟨Nat.le_refl _, Nat.le_refl _, rfl⟩

theorem isSmall_iff {c : Char} :
    IsSmall c ↔ c ≠ '\u0130' ∧ ¬('A' ≤ c && c ≤ 'Z') = true ∧
      lowerRanges.find? (·.covers c.toNat) = none := by
  rw [IsSmall, changedRanges, shiftedRanges, List.forall_mem_cons, List.forall_mem_cons,
    covers_dottedCapital_iff, covers_asciiCapitals_iff, List.find?_eq_none]

theorem IsSmall.lowerChar {c : Char} (small : IsSmall c) : lowerChar c = [c] := by
  obtain ⟨undotted, noCapital, unfound⟩ := isSmall_iff.mp small
  rw [Text.lowerChar, asciiLower, if_neg noCapital, if_neg (undotted ∘ beq_iff_eq.mp), mapRanges,
    unfound, Char.ofNat_toNat, ite_self]

theorem isSmall_asciiLower {c : Char} (ascii : c.toNat < 128) : IsSmall (asciiLower c) := by
  rw [asciiLower]
  split
  · next capital =>
      have shifted : asciiCapitals ∈ shiftedRanges := List.mem_cons_self
      have small := isSmall_of_covers shifted (covers_asciiCapitals_iff.mpr capital)
      have image : (Int.ofNat c.toNat + asciiCapitals.shift).toNat = c.toNat + 32 := rfl
      rwa [image] at small
  · next noCapital =>
      have beyond : ∀ range ∈ lowerRanges, 128 ≤ range.low := by decide +kernel
      refine isSmall_iff.mpr ⟨?_, noCapital, List.find?_eq_none.mpr fun range member covered => ?_⟩
      · rintro rfl
        exact absurd ascii (by decide)
      · have low := (CaseRange.covers_iff.mp covered).1
        have far := beyond range member
        omega

theorem isSmall_of_mem_lowerChar {c d : Char} (member : d ∈ lowerChar c) : IsSmall d := by
  rw [lowerChar] at member
  split at member
  · next ascii =>
      rw [List.mem_singleton.mp member]
      exact isSmall_asciiLower ascii
  · next beyond =>
      split at member
      · have letter : IsSmall 'i' := by decide +kernel
        have dot : IsSmall '\u0307' := by decide +kernel
        exact List.forall_mem_cons.mpr ⟨letter, List.forall_mem_singleton.mpr dot⟩ d member
      · next undotted =>
          rw [List.mem_singleton.mp member, mapRanges]
          split
          · next range found =>
              have covered := List.find?_some found
              exact isSmall_of_covers
                (List.mem_cons_of_mem _ (List.mem_of_find?_eq_some found)) covered
          · next unfound =>
              rw [Char.ofNat_toNat]
              refine isSmall_iff.mpr ⟨undotted ∘ beq_iff_eq.mpr, fun capital => beyond ?_, unfound⟩
              have high := (CaseRange.covers_iff.mp (covers_asciiCapitals_iff.mpr capital)).2.1
              exact Nat.lt_of_le_of_lt high (by decide)

/-! ## Texts that are kept -/

theorem isSmall_of_mem_lowerAfter {before text : Text} {c : Char}
    (member : c ∈ lowerAfter before text) : IsSmall c := by
  induction text generalizing before with
  | nil => nomatch member
  | cons first rest induction =>
      rw [lowerAfter, List.mem_append] at member
      rcases member with member | member
      · split at member
        · have final : IsSmall '\u03c2' := by decide +kernel
          have inner : IsSmall '\u03c3' := by decide +kernel
          split at member
          · exact List.mem_singleton.mp member ▸ final
          · exact List.mem_singleton.mp member ▸ inner
        · exact isSmall_of_mem_lowerChar member
      · exact induction member

theorem IsSmall.ne_sigma {c : Char} (small : IsSmall c) : ¬(c == '\u03a3') = true := by
  rw [beq_iff_eq]
  rintro rfl
  exact absurd small (by decide +kernel)

theorem lowerAfter_cons_of_isSmall {c : Char} (small : IsSmall c) (before rest : Text) :
    lowerAfter before (c :: rest) = c :: lowerAfter (c :: before) rest := by
  rw [lowerAfter, if_neg small.ne_sigma, small.lowerChar, List.singleton_append]

theorem lowerAfter_of_isSmall {before text : Text} (small : ∀ c ∈ text, IsSmall c) :
    lowerAfter before text = text := by
  induction text generalizing before with
  | nil => rfl
  | cons first rest induction =>
      rw [List.forall_mem_cons] at small
      rw [lowerAfter_cons_of_isSmall small.1, induction small.2]

theorem isSmall_of_mem_lower {text : Text} {c : Char} (member : c ∈ lower text) : IsSmall c :=
  isSmall_of_mem_lowerAfter member

theorem lower_of_isSmall {text : Text} (small : ∀ c ∈ text, IsSmall c) : lower text = text :=
  lowerAfter_of_isSmall small

/-! ## Blank characters -/

/-- The ranges of blank characters. -/
def blankRanges : List (Nat × Nat) := [
  (0x9, 0xd), (0x20, 0x20), (0x85, 0x85), (0xa0, 0xa0), (0x1680, 0x1680), (0x2000, 0x200a),
  (0x2028, 0x2028), (0x2029, 0x2029), (0x202f, 0x202f), (0x205f, 0x205f), (0x3000, 0x3000)]

theorem isBlank_eq_inRanges (c : Char) : isBlank c = inRanges blankRanges c.toNat := by
  have same (d : Char) : (c == d) = (decide (d.toNat ≤ c.toNat) && decide (c.toNat ≤ d.toNat)) := by
    rw [Bool.eq_iff_iff, beq_iff_eq, Bool.and_eq_true, decide_eq_true_eq, decide_eq_true_eq,
      ← Char.toNat_inj, Nat.le_antisymm_iff, and_comm]
  simp only [isBlank, inRanges, blankRanges, same, Char.le_def, UInt32.le_iff_toNat_le,
    List.any_cons, List.any_nil, Bool.or_false, Bool.or_assoc]
  rfl

/-- One or more blank characters. -/
structure IsBlankRun (run : Text) : Prop where
  any : run ≠ []
  blank : ∀ c ∈ run, isBlank c

/-- Whether no number lies in a range of each list. -/
def liesApart (ranges others : List (Nat × Nat)) : Bool :=
  ranges.all fun (low, high) => others.all fun (otherLow, otherHigh) =>
    high < otherLow || otherHigh < low

theorem inRanges_of_liesApart {ranges others : List (Nat × Nat)} {n : Nat}
    (apart : liesApart ranges others) (inside : inRanges ranges n) : inRanges others n = false := by
  rw [inRanges, List.any_eq_true] at inside
  obtain ⟨range, member, inside⟩ := inside
  rw [inRanges, List.any_eq_false]
  intro other otherMember otherInside
  have parted := List.all_eq_true.mp (List.all_eq_true.mp apart range member) other otherMember
  simp only [Bool.or_eq_true, Bool.and_eq_true, decide_eq_true_eq] at *
  omega

theorem meetsCased_cons (c : Char) (rest : Text) :
    meetsCased (c :: rest) =
      if inRanges caseIgnorableRanges c.toNat then meetsCased rest
      else inRanges casedRanges c.toNat := by
  rw [meetsCased, meetsCased, List.dropWhile_cons]
  cases inRanges caseIgnorableRanges c.toNat <;> rfl

section Blanks

variable {c : Char} (blank : isBlank c)
include blank

theorem isSmall_of_isBlank : IsSmall c := by
  have apart : liesApart blankRanges (changedRanges.map fun range => (range.low, range.high)) := by
    decide +kernel
  rw [isBlank_eq_inRanges] at blank
  have outside := inRanges_of_liesApart apart blank
  intro range changed covered
  rw [inRanges, List.any_map, List.any_eq_false] at outside
  obtain ⟨low, high, -⟩ := CaseRange.covers_iff.mp covered
  exact outside range changed (by simp [low, high])

theorem not_cased_of_isBlank : inRanges casedRanges c.toNat = false := by
  rw [isBlank_eq_inRanges] at blank
  exact inRanges_of_liesApart (by decide +kernel) blank

theorem not_caseIgnorable_of_isBlank : inRanges caseIgnorableRanges c.toNat = false := by
  rw [isBlank_eq_inRanges] at blank
  exact inRanges_of_liesApart (by decide +kernel) blank

/-- The rule for the final sigma does not look past a blank character. -/
theorem meetsCased_append_blank (near far : Text) :
    meetsCased (near ++ c :: far) = meetsCased near := by
  induction near with
  | nil =>
      rw [List.nil_append, meetsCased_cons, not_caseIgnorable_of_isBlank blank,
        not_cased_of_isBlank blank]
      rfl
  | cons first near induction =>
      rw [List.cons_append, meetsCased_cons, meetsCased_cons, induction]

theorem lowerAfter_behind_blank (near far text : Text) :
    lowerAfter (near ++ c :: far) text = lowerAfter near text := by
  induction text generalizing near with
  | nil => rfl
  | cons first rest induction =>
      rw [lowerAfter, lowerAfter, meetsCased_append_blank blank, ← List.cons_append, induction]

theorem lowerAfter_append_blank (before left right : Text) :
    lowerAfter before (left ++ c :: right) = lowerAfter before left ++ c :: lower right := by
  induction left generalizing before with
  | nil =>
      have parted := lowerAfter_behind_blank blank [] before right
      rw [List.nil_append] at parted
      rw [List.nil_append, lowerAfter_cons_of_isSmall (isSmall_of_isBlank blank), parted]
      rfl
  | cons first left induction =>
      rw [List.cons_append, lowerAfter, lowerAfter, meetsCased_append_blank blank, induction,
        List.append_assoc]

end Blanks

theorem lower_blanks_append {run : Text} (blank : ∀ c ∈ run, isBlank c) (rest : Text) :
    lower (run ++ rest) = run ++ lower rest := by
  induction run with
  | nil => rfl
  | cons c run induction =>
      rw [List.forall_mem_cons] at blank
      have parted := lowerAfter_append_blank blank.1 [] [] (run ++ rest)
      rw [induction blank.2] at parted
      exact parted

/-- A run of blank characters is kept, and each side of it is lower-cased by itself. -/
theorem lower_append_run {run : Text} (isRun : IsBlankRun run) (left right : Text) :
    lower (left ++ run ++ right) = lower left ++ run ++ lower right := by
  obtain ⟨any, blank⟩ := isRun
  obtain ⟨c, more, rfl⟩ := List.exists_cons_of_ne_nil any
  rw [List.forall_mem_cons] at blank
  rw [List.append_assoc, List.append_assoc, List.cons_append, List.cons_append, lower,
    lowerAfter_append_blank blank.1, lower_blanks_append blank.2]
  rfl

end DocSite.Text
