import DocSite.Html.Piece

/-!
# Vocabularies of markup

A vocabulary holds the words that markup may be made of. A text is markup in a vocabulary if it is
a sequence of complete tags with names from there, and of texts that cannot be taken for markup.
Such texts can be put together, and every piece with known names is written as one.
-/

namespace DocSite.Html

/-- The words that markup is made of. -/
structure Vocabulary where
  /-- The names of elements. -/
  elements : List Text
  /-- The names of attributes. -/
  attributes : List Text
  /-- The character references. -/
  references : List Text

namespace Vocabulary

/-- The order by which one vocabulary is a part of another. -/
instance : LE Vocabulary where
  le words more :=
    words.elements ⊆ more.elements ∧ words.attributes ⊆ more.attributes ∧
      words.references ⊆ more.references

theorem le_refl (words : Vocabulary) : words ≤ words :=
  ⟨List.Subset.refl _, List.Subset.refl _, List.Subset.refl _⟩

theorem le_trans {words more most : Vocabulary} (part : words ≤ more) (whole : more ≤ most) :
    words ≤ most :=
  ⟨List.Subset.trans part.1 whole.1, List.Subset.trans part.2.1 whole.2.1,
    List.Subset.trans part.2.2 whole.2.2⟩

/-! ## Markup -/

/-- The text has no angle brackets and no quotes, and all its ampersands begin references. -/
def IsText (words : Vocabulary) (text : Text) : Prop :=
  (∀ c ∈ text, c ≠ '<' ∧ c ≠ '>' ∧ c ≠ '\x22' ∧ c ≠ '\x27') ∧
    ∀ rest, '&' :: rest <:+ text → ∃ reference ∈ words.references, reference <+: '&' :: rest

/-- The text is a space and an attribute, without a value or with a quoted one. -/
def IsAttribute (words : Vocabulary) (text : Text) : Prop :=
  ∃ name ∈ words.attributes,
    text = ' ' :: name ∨
      ∃ value, words.IsText value ∧ text = ' ' :: name ++ '=' :: '\x22' :: value ++ ['\x22']

/-- The text is a complete tag. -/
def IsTag (words : Vocabulary) (text : Text) : Prop :=
  ∃ name ∈ words.elements,
    text = '<' :: '/' :: name ++ ['>'] ∨
      ∃ attributes : List Text, (∀ attr ∈ attributes, words.IsAttribute attr) ∧
        text = '<' :: name ++ attributes.flatten ++ ['>']

/-- The text is a sequence of tags and of texts that cannot be taken for markup. -/
def IsMarkup (words : Vocabulary) (text : Text) : Prop :=
  ∃ parts : List Text,
    (∀ part ∈ parts, words.IsText part ∨ words.IsTag part) ∧ text = parts.flatten

variable {words more : Vocabulary}

/-! ## Larger vocabularies -/

theorem IsText.mono (part : words ≤ more) {text : Text} (isText : words.IsText text) :
    more.IsText text := by
  refine ⟨isText.1, fun rest suffix => ?_⟩
  obtain ⟨reference, known, start⟩ := isText.2 rest suffix
  exact ⟨reference, part.2.2 known, start⟩

theorem IsAttribute.mono (part : words ≤ more) {text : Text}
    (isAttribute : words.IsAttribute text) : more.IsAttribute text := by
  obtain ⟨name, known, alone | ⟨value, isText, quoted⟩⟩ := isAttribute
  · exact ⟨name, part.2.1 known, .inl alone⟩
  · exact ⟨name, part.2.1 known, .inr ⟨value, isText.mono part, quoted⟩⟩

theorem IsTag.mono (part : words ≤ more) {text : Text} (isTag : words.IsTag text) :
    more.IsTag text := by
  obtain ⟨name, known, closing | ⟨attributes, isAttribute, opening⟩⟩ := isTag
  · exact ⟨name, part.1 known, .inl closing⟩
  · exact ⟨name, part.1 known,
      .inr ⟨attributes, fun attr member => (isAttribute attr member).mono part, opening⟩⟩

theorem IsMarkup.mono (part : words ≤ more) {text : Text} (isMarkup : words.IsMarkup text) :
    more.IsMarkup text := by
  obtain ⟨parts, sound, flat⟩ := isMarkup
  exact ⟨parts, fun text member => (sound text member).imp (·.mono part) (·.mono part), flat⟩

/-! ## Texts put together -/

theorem isText_nil : words.IsText [] := by
  refine ⟨by simp, fun rest suffix => ?_⟩
  simp at suffix

/-- An ampersand of the left text begins a reference that is still there when a text follows. -/
theorem IsText.append {left right : Text} (isLeft : words.IsText left)
    (isRight : words.IsText right) : words.IsText (left ++ right) := by
  constructor
  · intro c member
    rcases List.mem_append.mp member with member | member
    · exact isLeft.1 c member
    · exact isRight.1 c member
  · rintro rest ⟨front, split⟩
    rcases List.append_eq_append_iff.mp split with ⟨between, leftSplit, restSplit⟩ |
      ⟨between, frontSplit, rightSplit⟩
    · cases between with
      | nil => exact isRight.2 rest ⟨[], by simpa using restSplit⟩
      | cons mark between =>
          obtain ⟨rfl, rfl⟩ := List.cons.inj restSplit
          obtain ⟨reference, known, start⟩ := isLeft.2 between ⟨front, leftSplit.symm⟩
          exact ⟨reference, known, start.trans ⟨right, by simp⟩⟩
    · exact isRight.2 rest ⟨between, rightSplit.symm⟩

theorem isText_flatMap {α : Type} {parts : List α} {written : α → Text}
    (isText : ∀ part ∈ parts, words.IsText (written part)) :
    words.IsText (parts.flatMap written) := by
  induction parts with
  | nil => exact isText_nil
  | cons part parts induction =>
      simp only [List.mem_cons, forall_eq_or_imp] at isText
      exact isText.1.append (induction isText.2)

theorem isMarkup_nil : words.IsMarkup [] :=
  ⟨[], by simp, rfl⟩

theorem IsText.isMarkup {text : Text} (isText : words.IsText text) : words.IsMarkup text :=
  ⟨[text], by simpa using .inl isText, by simp⟩

theorem IsTag.isMarkup {text : Text} (isTag : words.IsTag text) : words.IsMarkup text :=
  ⟨[text], by simpa using .inr isTag, by simp⟩

theorem IsMarkup.append {left right : Text} (isLeft : words.IsMarkup left)
    (isRight : words.IsMarkup right) : words.IsMarkup (left ++ right) := by
  obtain ⟨leftParts, leftSound, rfl⟩ := isLeft
  obtain ⟨rightParts, rightSound, rfl⟩ := isRight
  refine ⟨leftParts ++ rightParts, fun part member => ?_, by simp⟩
  rcases List.mem_append.mp member with member | member
  · exact leftSound part member
  · exact rightSound part member

theorem isMarkup_flatMap {α : Type} {parts : List α} {written : α → Text}
    (isMarkup : ∀ part ∈ parts, words.IsMarkup (written part)) :
    words.IsMarkup (parts.flatMap written) := by
  induction parts with
  | nil => exact isMarkup_nil
  | cons part parts induction =>
      simp only [List.mem_cons, forall_eq_or_imp] at isMarkup
      exact isMarkup.1.append (induction isMarkup.2)

/-! ## Where tags begin and end -/

theorem IsText.not_mem_bracket {text : Text} (isText : words.IsText text) {mark : Char}
    (bracket : mark = '<' ∨ mark = '>') : mark ∉ text := by
  intro member
  have unlike := isText.1 mark member
  rcases bracket with rfl | rfl
  · exact unlike.1 rfl
  · exact unlike.2.1 rfl

theorem IsText.not_mem {text : Text} (isText : words.IsText text) : '<' ∉ text :=
  isText.not_mem_bracket (.inl rfl)

theorem IsAttribute.not_mem {text : Text} (isAttribute : words.IsAttribute text) {mark : Char}
    (bracket : mark = '<' ∨ mark = '>') (plain : ∀ name ∈ words.attributes, mark ∉ name) :
    mark ∉ text := by
  have other : mark ≠ ' ' ∧ mark ≠ '=' ∧ mark ≠ '\x22' := by
    rcases bracket with rfl | rfl <;> decide
  obtain ⟨name, known, written⟩ := isAttribute
  rcases written with rfl | ⟨value, isText, rfl⟩
  · simpa [other] using plain name known
  · simpa [other, isText.not_mem_bracket bracket] using plain name known

theorem IsAttribute.head?_eq {text : Text} (isAttribute : words.IsAttribute text) :
    text.head? = some ' ' := by
  obtain ⟨name, _, rfl | ⟨value, _, rfl⟩⟩ := isAttribute <;> rfl

theorem not_mem_flatten {mark : Char} (bracket : mark = '<' ∨ mark = '>')
    {attributes : List Text} (plain : ∀ name ∈ words.attributes, mark ∉ name)
    (isAttribute : ∀ attr ∈ attributes, words.IsAttribute attr) : mark ∉ attributes.flatten := by
  intro member
  obtain ⟨attr, present, inside⟩ := List.mem_flatten.mp member
  exact (isAttribute attr present).not_mem bracket plain inside

/-! ## Escaped texts -/

/-- The characters that have a meaning in markup. -/
def special : List Char := ['&', '<', '>', '\x22', '\x27']

/-- The references that are written for them. -/
def escapes : List Text := ["&amp;", "&lt;", "&gt;", "&quot;", "&#x27;"]

theorem escapeChar_plain {c : Char} (plain : c ∉ special) : escapeChar c = [c] := by
  simp only [special, List.mem_cons, List.not_mem_nil, or_false, not_or] at plain
  simp [escapeChar, plain]

theorem isText_of_plain {text : Text} (plain : text.all (· ∉ special)) : words.IsText text := by
  have each : ∀ c ∈ text, c ∉ special := by simpa using plain
  constructor
  · intro c member
    have unlike := each c member
    simp only [special, List.mem_cons, List.not_mem_nil, or_false, not_or] at unlike
    exact unlike.2
  · intro rest suffix
    exact absurd (by decide) (each '&' (suffix.subset (by simp)))

/-- A reference is a text: its own ampersand is the only one. -/
theorem isText_reference {body : Text} (known : '&' :: body ∈ words.references)
    (plain : body.all (· ∉ special)) : words.IsText ('&' :: body) := by
  have isBody : words.IsText body := isText_of_plain plain
  constructor
  · intro c member
    rcases List.mem_cons.mp member with rfl | member
    · decide
    · exact isBody.1 c member
  · intro rest suffix
    rcases List.suffix_cons_iff.mp suffix with whole | inner
    · exact ⟨'&' :: body, known, whole ▸ List.prefix_rfl⟩
    · exact isBody.2 rest inner

theorem isText_escapeChar (known : escapes ⊆ words.references) (c : Char) :
    words.IsText (escapeChar c) := by
  have isEscape : ∀ {body : Text}, '&' :: body ∈ escapes → body.all (· ∉ special) →
      words.IsText ('&' :: body) :=
    fun member plain => isText_reference (known member) plain
  by_cases unlike : c ∈ special
  · simp only [special, List.mem_cons, List.not_mem_nil, or_false] at unlike
    rcases unlike with rfl | rfl | rfl | rfl | rfl <;> exact isEscape (by decide) (by decide)
  · rw [escapeChar_plain unlike]
    exact isText_of_plain (by simpa using unlike)

theorem isText_escape (known : escapes ⊆ words.references) (text : Text) :
    words.IsText (escape text) :=
  isText_flatMap fun c _ => isText_escapeChar known c

end Vocabulary

/-! ## Pieces -/

namespace Piece

/-- All names in the piece are in the vocabulary, and what has been written before is markup. -/
def Within (words : Vocabulary) : Piece → Prop
  | startTag name attributes =>
    name ∈ words.elements ∧ ∀ attr ∈ attributes, attr.name ∈ words.attributes
  | endTag name => name ∈ words.elements
  | text _ => True
  | markup written => words.IsMarkup written

variable {words more : Vocabulary}

theorem Within.mono (part : words ≤ more) {piece : Piece} (within : piece.Within words) :
    piece.Within more := by
  cases piece with
  | startTag name attributes =>
      exact ⟨part.1 within.1, fun attr member => part.2.1 (within.2 attr member)⟩
  | endTag name => exact part.1 within
  | text content => trivial
  | markup written => exact Vocabulary.IsMarkup.mono part within

theorem within_startTag_of {name key : Text} (known : name ∈ words.elements)
    (named : key ∈ words.attributes) (value : Text) :
    (startTag name [.of key value]).Within words := by
  refine ⟨known, fun attr member => ?_⟩
  obtain rfl := List.mem_singleton.mp member
  exact named

private theorem isAttribute_write (known : Vocabulary.escapes ⊆ words.references)
    {attr : Attribute} (named : attr.name ∈ words.attributes) :
    words.IsAttribute attr.write := by
  obtain ⟨name, value⟩ := attr
  cases value with
  | none => exact ⟨name, named, .inl rfl⟩
  | some value =>
      exact ⟨name, named, .inr ⟨escape value, Vocabulary.isText_escape known value, rfl⟩⟩

theorem isAttribute_of_mem_map_write (known : Vocabulary.escapes ⊆ words.references)
    {attributes : List Attribute} (named : ∀ attr ∈ attributes, attr.name ∈ words.attributes) :
    ∀ text ∈ attributes.map Attribute.write, words.IsAttribute text := by
  intro text member
  obtain ⟨attr, present, rfl⟩ := List.mem_map.mp member
  exact isAttribute_write known (named attr present)

theorem Within.isMarkup_write (known : Vocabulary.escapes ⊆ words.references) {piece : Piece}
    (within : piece.Within words) : words.IsMarkup piece.write := by
  cases piece with
  | startTag name attributes =>
      apply Vocabulary.IsTag.isMarkup
      exact ⟨name, within.1, .inr ⟨attributes.map Attribute.write,
        isAttribute_of_mem_map_write known within.2, rfl⟩⟩
  | endTag name => exact Vocabulary.IsTag.isMarkup ⟨name, within, .inl rfl⟩
  | text content => exact (Vocabulary.isText_escape known content).isMarkup
  | markup written => exact within

theorem isMarkup_writeAll (known : Vocabulary.escapes ⊆ words.references) {pieces : List Piece}
    (within : ∀ piece ∈ pieces, piece.Within words) : words.IsMarkup (writeAll pieces) :=
  Vocabulary.isMarkup_flatMap fun piece member => (within piece member).isMarkup_write known

end Piece

end DocSite.Html
