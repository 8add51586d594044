import DocSite.Proofs.Html.PlainText

/-!
# Escaping

Escaped text cannot be taken for markup and is read back as it was meant. It is escaped one
character after the other, so it makes no difference in which pieces that is done: each reference
in what is written stands for one character of one piece.
-/

namespace DocSite.Html

open Vocabulary (special escapes)

/-! ## Characters -/

theorem escape_cons (c : Char) (text : Text) : escape (c :: text) = escapeChar c ++ escape text :=
  List.flatMap_cons

/-- What a special character is written as: one ampersand with something behind it. -/
theorem exists_reference_of_mem_special {c : Char} (unlike : c ∈ special) :
    ∃ name, escapeChar c = '&' :: name ∧ name ≠ [] ∧ '&' ∉ name := by
  simp only [special, List.mem_cons, List.not_mem_nil, or_false] at unlike
  rcases unlike with rfl | rfl | rfl | rfl | rfl <;>
    exact ⟨_, rfl, by decide, by decide⟩

theorem length_escapeChar_pos (c : Char) : 0 < (escapeChar c).length := by
  by_cases unlike : c ∈ special
  · obtain ⟨name, written, -, -⟩ := exists_reference_of_mem_special unlike
    simp [written]
  · simp [Vocabulary.escapeChar_plain unlike]

theorem length_escapeChar_le_one_iff {c : Char} : (escapeChar c).length ≤ 1 ↔ c ∉ special := by
  refine ⟨fun short unlike => ?_, fun plain => by simp [Vocabulary.escapeChar_plain plain]⟩
  obtain ⟨name, written, any, -⟩ := exists_reference_of_mem_special unlike
  simp [written, any] at short

/-- The only ampersand that a character is written with comes first. -/
theorem eq_nil_of_escapeChar_eq {c : Char} {before after : Text}
    (written : escapeChar c = before ++ '&' :: after) : before = [] ∧ c ∈ special := by
  by_cases unlike : c ∈ special
  · refine ⟨?_, unlike⟩
    obtain ⟨name, begins, -, once⟩ := exists_reference_of_mem_special unlike
    cases before with
    | nil => rfl
    | cons first before =>
        obtain ⟨-, rfl⟩ := List.cons.inj (begins.symm.trans written)
        simp at once
  · have mark : '&' ∈ escapeChar c := written ▸ List.mem_append_right before List.mem_cons_self
    rw [Vocabulary.escapeChar_plain unlike, List.mem_singleton] at mark
    exact absurd (mark ▸ by decide) unlike

theorem length_le_length_escape (text : Text) : text.length ≤ (escape text).length := by
  induction text with
  | nil => exact Nat.zero_le _
  | cons c text induction =>
      have longer := length_escapeChar_pos c
      rw [escape_cons, List.length_append, List.length_cons]
      omega

theorem escape_eq_self_iff {text : Text} : escape text = text ↔ ∀ c ∈ text, c ∉ special := by
  induction text with
  | nil => simp [escape]
  | cons c text induction =>
      rw [List.forall_mem_cons, ← induction, escape_cons]
      constructor
      · intro same
        have short : (escapeChar c).length ≤ 1 := by
          have lengths := congrArg List.length same
          have longer := length_le_length_escape text
          rw [List.length_append, List.length_cons] at lengths
          omega
        have plain := length_escapeChar_le_one_iff.mp short
        rw [Vocabulary.escapeChar_plain plain] at same
        exact ⟨plain, (List.cons.inj same).2⟩
      · rintro ⟨plain, same⟩
        rw [Vocabulary.escapeChar_plain plain, same]
        rfl

/-! ## References read back -/

/-- Reads text that has been escaped, once and from left to right. Whatever is none of the five
references stands for itself. -/
def unescape : Text → Text
  | '&' :: 'a' :: 'm' :: 'p' :: ';' :: rest => '&' :: unescape rest
  | '&' :: 'l' :: 't' :: ';' :: rest => '<' :: unescape rest
  | '&' :: 'g' :: 't' :: ';' :: rest => '>' :: unescape rest
  | '&' :: 'q' :: 'u' :: 'o' :: 't' :: ';' :: rest => '\x22' :: unescape rest
  | '&' :: '#' :: 'x' :: '2' :: '7' :: ';' :: rest => '\x27' :: unescape rest
  | c :: rest => c :: unescape rest
  | [] => []

theorem unescape_cons_plain {c : Char} (plain : c ≠ '&') (rest : Text) :
    unescape (c :: rest) = c :: unescape rest := by
  simp [unescape, plain]

theorem unescape_escapeChar (c : Char) (rest : Text) :
    unescape (escapeChar c ++ rest) = c :: unescape rest := by
  by_cases unlike : c ∈ special
  · simp only [special, List.mem_cons, List.not_mem_nil, or_false] at unlike
    rcases unlike with rfl | rfl | rfl | rfl | rfl <;> rfl
  · rw [Vocabulary.escapeChar_plain unlike]
    apply unescape_cons_plain
    rintro rfl
    exact unlike (by decide)

theorem unescape_escape (text : Text) : unescape (escape text) = text := by
  induction text with
  | nil => rfl
  | cons c text induction => rw [escape_cons, unescape_escapeChar, induction]

theorem escape_injective : Function.Injective escape :=
  Function.LeftInverse.injective unescape_escape

/-! ## Which texts are escaped ones -/

namespace Vocabulary

/-- The vocabulary of escaped text: there are no tags, and only the five references. -/
def escaped : Vocabulary where
  elements := []
  attributes := []
  references := escapes

theorem escapes_eq_map : escapes = special.map escapeChar :=
  rfl

variable {c : Char} {written rest : Text}

theorem IsText.exists_escapeChar (isText : escaped.IsText (c :: rest)) :
    ∃ meant later, c :: rest = escapeChar meant ++ later ∧ escaped.IsText later := by
  suffices ∃ meant later, c :: rest = escapeChar meant ++ later by
    obtain ⟨meant, later, split⟩ := this
    have dropped := isText.drop (escapeChar meant).length
    rw [split, List.drop_left] at dropped
    exact ⟨meant, later, split, dropped⟩
  by_cases mark : c = '&'
  · subst mark
    obtain ⟨reference, known, later, split⟩ := isText.2 rest List.suffix_rfl
    rw [escaped, escapes_eq_map] at known
    obtain ⟨meant, -, rfl⟩ := List.mem_map.mp known
    exact ⟨meant, later, split.symm⟩
  · have unlike := isText.1 c List.mem_cons_self
    have plain : c ∉ special := by simp [special, mark, unlike]
    exact ⟨c, rest, by rw [escapeChar_plain plain]; rfl⟩

theorem IsText.escape_unescape (isText : escaped.IsText written) :
    escape (unescape written) = written := by
  induction length : written.length using Nat.strongRecOn generalizing written with
  | _ size induction =>
      subst length
      cases written with
      | nil => rfl
      | cons c rest =>
          obtain ⟨meant, later, split, isLater⟩ := isText.exists_escapeChar
          have shorter : later.length < (c :: rest).length := by
            have longer := length_escapeChar_pos meant
            rw [split, List.length_append]
            omega
          rw [split, unescape_escapeChar, escape_cons, induction _ shorter isLater rfl]

end Vocabulary

/-! ## Texts in pieces -/

theorem escape_flatten (pieces : List Text) : escape pieces.flatten = pieces.flatMap escape := by
  rw [← List.flatMap_id]
  exact List.flatMap_assoc

/-- What stands at a place of parts put together stands at a place of one of them. -/
private theorem exists_of_flatMap_eq {α : Type} {part : α → Text} {parts : List α}
    {before after : Text} {mark : Char} (whole : parts.flatMap part = before ++ mark :: after) :
    ∃ earlier here later front back, parts = earlier ++ here :: later ∧
      part here = front ++ mark :: back ∧ before = earlier.flatMap part ++ front ∧
      after = back ++ later.flatMap part := by
  induction parts generalizing before with
  | nil => simp at whole
  | cons first parts induction =>
      -- The place is in the first part or behind it.
      have place : (∃ back, part first = before ++ mark :: back ∧
            after = back ++ parts.flatMap part) ∨
          ∃ between, before = part first ++ between ∧
            parts.flatMap part = between ++ mark :: after := by
        rw [List.flatMap_cons] at whole
        rcases List.append_eq_append_iff.mp whole with ⟨between, split, rest⟩ |
          ⟨_ | ⟨c, back⟩, split, rest⟩
        · exact .inr ⟨between, split, rest⟩
        · exact .inr ⟨[], by simpa using split.symm, rest.symm⟩
        · obtain ⟨rfl, behind⟩ := List.cons.inj rest
          exact .inl ⟨back, split, behind⟩
      rcases place with ⟨back, stands, rest⟩ | ⟨between, rfl, rest⟩
      · exact ⟨[], first, parts, before, back, rfl, stands, rfl, rest⟩
      · obtain ⟨earlier, here, later, front, back, rfl, stands, rfl, behind⟩ := induction rest
        exact ⟨first :: earlier, here, later, front, back, rfl, stands, by simp, behind⟩

/-- An ampersand in escaped text begins what one character is written as. -/
theorem exists_of_escape_eq {text before after : Text}
    (written : escape text = before ++ '&' :: after) :
    ∃ left c right, text = left ++ c :: right ∧ c ∈ special ∧ before = escape left ∧
      '&' :: after = escapeChar c ++ escape right := by
  obtain ⟨left, c, right, front, back, rfl, stands, rfl, rfl⟩ := exists_of_flatMap_eq written
  obtain ⟨rfl, unlike⟩ := eq_nil_of_escapeChar_eq stands
  refine ⟨left, c, right, rfl, unlike, List.append_nil _, ?_⟩
  rw [stands]
  rfl

/-- An ampersand in pieces that have been escaped begins what one character of one of them is
written as. -/
theorem exists_of_flatMap_escape_eq {pieces : List Text} {before after : Text}
    (written : pieces.flatMap escape = before ++ '&' :: after) :
    ∃ earlier left c right later, pieces = earlier ++ (left ++ c :: right) :: later ∧
      c ∈ special ∧ before = earlier.flatMap escape ++ escape left ∧
      '&' :: after = escapeChar c ++ escape right ++ later.flatMap escape := by
  obtain ⟨earlier, piece, later, front, back, rfl, stands, rfl, rfl⟩ :=
    exists_of_flatMap_eq written
  obtain ⟨left, c, right, rfl, unlike, rfl, begins⟩ := exists_of_escape_eq stands
  refine ⟨earlier, left, c, right, later, rfl, unlike, rfl, ?_⟩
  rw [← begins]
  rfl

/-- Escaped text has no angle brackets and no quotes, and each ampersand in it begins one of the
five references; there is no other text of that form. Reading the references back once gives the
text, so different texts are written differently, and what has been escaped is escaped again. Texts
can be escaped in pieces, and then too each ampersand begins what one character of one piece is
written as. -/
theorem escaped_texts_are_read_back :
    (∀ text, Vocabulary.escaped.IsText (escape text)) ∧
    (∀ written, Vocabulary.escaped.IsText written → escape (unescape written) = written) ∧
    (∀ text, unescape (escape text) = text) ∧
    Function.Injective escape ∧
    (∀ text, escape (escape text) = escape text ↔ ∀ c ∈ text, c ∉ special) ∧
    (∀ pieces : List Text, escape pieces.flatten = pieces.flatMap escape) ∧
    ∀ (pieces : List Text) (before after : Text), pieces.flatMap escape = before ++ '&' :: after →
      ∃ earlier left c right later, pieces = earlier ++ (left ++ c :: right) :: later ∧
        c ∈ special ∧ before = earlier.flatMap escape ++ escape left ∧
        '&' :: after = escapeChar c ++ escape right ++ later.flatMap escape := by
  refine ⟨Vocabulary.isText_escape (List.Subset.refl _), fun _ => Vocabulary.IsText.escape_unescape,
    unescape_escape, escape_injective, fun text => ?_, escape_flatten,
    fun _ _ _ => exists_of_flatMap_escape_eq⟩
  rw [escape_injective.eq_iff, escape_eq_self_iff]

/-- A reference that is cut in two: the pieces are read back as they were, and not as one
ampersand. -/
theorem escaped_texts_are_read_back_cut_reference :
    let pieces : List Text := ["R&".toList, "amp;D <b>\"Q's\"</b>".toList]
    let after : Text := "amp;amp;D &lt;b&gt;&quot;Q&#x27;s&quot;&lt;/b&gt;"
    pieces.flatMap escape = 'R' :: '&' :: after ∧
      unescape ('R' :: '&' :: after) = pieces.flatten ∧
      escape (unescape ('R' :: '&' :: after)) = 'R' :: '&' :: after ∧
      escape ('R' :: '&' :: after) ≠ 'R' :: '&' :: after ∧
      ∃ earlier left c right later, pieces = earlier ++ (left ++ c :: right) :: later ∧
        c ∈ special ∧ ['R'] = earlier.flatMap escape ++ escape left ∧
        '&' :: after = escapeChar c ++ escape right ++ later.flatMap escape := by
  intro pieces after
  obtain ⟨isText, range, back, -, again, whole, places⟩ := escaped_texts_are_read_back
  have written : pieces.flatMap escape = 'R' :: '&' :: after := by decide +kernel
  have joined : escape pieces.flatten = 'R' :: '&' :: after := by rw [whole, written]
  refine ⟨written, ?_, ?_, ?_, places pieces ['R'] after written⟩
  · rw [← joined, back]
  · exact range _ (joined ▸ isText _)
  · rw [← joined, ne_eq, again]
    exact fun plain => plain '&' (by decide) (by decide)

end DocSite.Html
