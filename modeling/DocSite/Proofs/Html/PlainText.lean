import DocSite.Proofs.Html.Decoding
import DocSite.Proofs.Html.Writing

/-!
# The text in markup

Markup says what is left of it when its tags are left out and its references are read back.
Complete tags and texts say what they say wherever they stand, so markup says what its pieces hold,
one after the other.
-/

namespace DocSite.Html

/-! ## Tags left out -/

/-- A text without its tags. `inTag` says that it begins inside one. -/
def withoutTags : (inTag : Bool) → Text → Text
  | _, [] => []
  | true, c :: rest => withoutTags (c != '>') rest
  | false, c :: rest => if c == '<' then withoutTags true rest else c :: withoutTags false rest

/-- What markup says: its text, read back. -/
def plainText (markup : Text) : Text :=
  decode (withoutTags false markup)

theorem withoutTags_append {left : Text} (plain : '<' ∉ left) (right : Text) :
    withoutTags false (left ++ right) = left ++ withoutTags false right := by
  induction left with
  | nil => rfl
  | cons c left induction =>
      simp only [List.mem_cons, not_or] at plain
      rw [List.cons_append, withoutTags, if_neg (by simpa using Ne.symm plain.1),
        induction plain.2]
      rfl

private theorem withoutTags_inside {body : Text} (closed : '>' ∉ body) (rest : Text) :
    withoutTags true (body ++ '>' :: rest) = withoutTags false rest := by
  induction body with
  | nil => rfl
  | cons c body induction =>
      simp only [List.mem_cons, not_or] at closed
      have goesOn : (c != '>') = true := by simpa using Ne.symm closed.1
      rw [List.cons_append, withoutTags, goesOn, induction closed.2]

theorem withoutTags_tag {body : Text} (closed : '>' ∉ body) (rest : Text) :
    withoutTags false ('<' :: body ++ ['>'] ++ rest) = withoutTags false rest := by
  have inside := withoutTags_inside closed rest
  simpa [withoutTags] using inside

/-! ## References read back -/

namespace Vocabulary

/-- Tags in the vocabulary end where they seem to, and its references can be read. -/
structure Legible (words : Vocabulary) : Prop where
  elements : ∀ name ∈ words.elements, '>' ∉ name
  attributes : ∀ name ∈ words.attributes, '>' ∉ name
  references : ∀ reference ∈ words.references, reference ∈ escapedChars.map Prod.fst

theorem legible_document : document.Legible where
  elements := by decide
  attributes := by decide
  references := by decide

variable {words : Vocabulary} {left text : Text}

theorem IsText.drop (isText : words.IsText text) (count : Nat) :
    words.IsText (text.drop count) := by
  refine ⟨fun c member => isText.1 c (List.mem_of_mem_drop member), fun rest suffix => ?_⟩
  exact isText.2 rest (suffix.trans (List.drop_suffix count text))

-- No reference begins like another one, so what follows one does not change which it is.
private theorem find?_reference {reference : Text}
    (known : reference ∈ escapedChars.map Prod.fst) :
    ∃ meant, ∀ rest, (escapedChars.find? fun entry => entry.1.isPrefixOf (reference ++ rest)) =
      some (reference, meant) := by
  simp only [escapedChars, List.map_cons, List.map_nil, List.mem_cons, List.not_mem_nil,
    or_false] at known
  rcases known with rfl | rfl | rfl | rfl | rfl | rfl <;> exact ⟨_, fun _ => rfl⟩

private theorem decodeFrom_append (legible : words.Legible) (left right : Text) (skipped : Nat)
    (inside : skipped ≤ left.length) (isText : words.IsText (left.drop skipped)) :
    decodeFrom skipped (left ++ right) = decodeFrom skipped left ++ decode right := by
  induction left generalizing skipped with
  | nil =>
      obtain rfl : skipped = 0 := Nat.le_zero.mp inside
      rfl
  | cons c left induction =>
      cases skipped with
      | succ skipped => exact induction skipped (Nat.le_of_succ_le_succ inside) isText
      | zero =>
          rw [List.drop_zero] at isText
          by_cases mark : c = '&'
          · subst mark
            obtain ⟨reference, known, rest, split⟩ := isText.2 left List.suffix_rfl
            obtain ⟨meant, found⟩ := find?_reference (legible.references reference known)
            have length : reference.length - 1 ≤ left.length := by
              have lengths := congrArg List.length split
              simp only [List.length_append, List.length_cons] at lengths
              omega
            have behind := induction (reference.length - 1) length
              (isText.drop (reference.length - 1 + 1))
            have before := found rest
            have later := found (rest ++ right)
            rw [← List.append_assoc, split] at later
            rw [split] at before
            rw [List.cons_append] at later ⊢
            rw [decodeFrom, later, decodeFrom, before]
            exact congrArg (meant :: ·) behind
          · have tail : decode (left ++ right) = decode left ++ decode right :=
              induction 0 (Nat.zero_le _) (isText.drop 1)
            have whole := decode_cons_plain mark (left ++ right)
            have front := decode_cons_plain mark left
            rw [tail] at whole
            rw [decode] at whole front
            rw [List.cons_append, whole, front]
            rfl

/-- References stay what they are when a text follows. -/
theorem IsText.decode_append (isText : words.IsText left) (legible : words.Legible)
    (right : Text) : decode (left ++ right) = decode left ++ decode right :=
  decodeFrom_append legible left right 0 (Nat.zero_le _) isText

/-! ## Markup -/

theorem IsText.plainText_append (isText : words.IsText left) (legible : words.Legible)
    (right : Text) : plainText (left ++ right) = decode left ++ plainText right := by
  rw [plainText, withoutTags_append isText.not_mem, isText.decode_append legible]
  rfl

theorem IsTag.plainText_append (isTag : words.IsTag left) (legible : words.Legible)
    (right : Text) : plainText (left ++ right) = plainText right := by
  obtain ⟨name, known, rfl | ⟨attributes, isAttribute, rfl⟩⟩ := isTag
  · have closed : '>' ∉ '/' :: name := by simpa using legible.elements name known
    rw [plainText, withoutTags_tag closed]
    rfl
  · have closed : '>' ∉ name ++ attributes.flatten := by
      simpa [legible.elements name known] using
        not_mem_flatten (.inr rfl) legible.attributes isAttribute
    show decode (withoutTags false ('<' :: (name ++ attributes.flatten) ++ ['>'] ++ right)) = _
    rw [withoutTags_tag closed]
    rfl

/-- Markup says the same whatever follows it. -/
theorem IsMarkup.plainText_append (isMarkup : words.IsMarkup left) (legible : words.Legible)
    (right : Text) : plainText (left ++ right) = plainText left ++ plainText right := by
  obtain ⟨parts, sound, rfl⟩ := isMarkup
  induction parts with
  | nil => rfl
  | cons part parts induction =>
      simp only [List.mem_cons, forall_eq_or_imp] at sound
      rw [List.flatten_cons, List.append_assoc]
      rcases sound.1 with isText | isTag
      · rw [isText.plainText_append legible, isText.plainText_append legible,
          induction sound.2, List.append_assoc]
      · rw [isTag.plainText_append legible, isTag.plainText_append legible, induction sound.2]

end Vocabulary

namespace Piece

/-- What a piece says. -/
def plainText : Piece → Text
  | startTag _ _ => []
  | endTag _ => []
  | text content => content
  | markup written => Html.plainText written

variable {words : Vocabulary}

theorem plainText_write (legible : words.Legible)
    (known : Vocabulary.escapes ⊆ words.references) {piece : Piece}
    (within : piece.Within words) : Html.plainText piece.write = piece.plainText := by
  have alone (text : Text) : text = text ++ [] := (List.append_nil text).symm
  cases piece with
  | startTag name attributes =>
      have isTag : words.IsTag (startTag name attributes).write :=
        ⟨name, within.1, .inr ⟨attributes.map Attribute.write,
          isAttribute_of_mem_map_write known within.2, rfl⟩⟩
      rw [alone (write _), isTag.plainText_append legible]
      rfl
  | endTag name =>
      have isTag : words.IsTag (endTag name).write := ⟨name, within, .inl rfl⟩
      rw [alone (write _), isTag.plainText_append legible]
      rfl
  | text content =>
      have isText : words.IsText (escape content) := Vocabulary.isText_escape known content
      rw [alone (write _), write, isText.plainText_append legible, decode_escape]
      exact (alone content).symm
  | markup written => rfl

/-- What pieces say is what each of them says, in order. -/
theorem plainText_writeAll (legible : words.Legible)
    (known : Vocabulary.escapes ⊆ words.references) {pieces : List Piece}
    (within : ∀ piece ∈ pieces, piece.Within words) :
    Html.plainText (writeAll pieces) = pieces.flatMap plainText := by
  induction pieces with
  | nil => rfl
  | cons piece pieces induction =>
      simp only [List.mem_cons, forall_eq_or_imp] at within
      have tail : Html.plainText (pieces.flatMap write) = pieces.flatMap plainText :=
        induction within.2
      rw [writeAll, List.flatMap_cons, List.flatMap_cons,
        (within.1.isMarkup_write known).plainText_append legible,
        plainText_write legible known within.1, tail]

end Piece

end DocSite.Html
