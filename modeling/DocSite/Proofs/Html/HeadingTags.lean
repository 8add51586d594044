import DocSite.Proofs.Html.Decoding
import DocSite.Proofs.Html.Writing

/-!
# Tags of headings in markup

Markup is searched for the tags of headings, wherever they are in it. Markup in which no word names
a heading has none, and it hides none in what follows it.
-/

namespace DocSite.Html

/-! ## Tags -/

/-- The tag of a heading as it is found in markup. -/
structure HeadingTag where
  /-- The level that the tag names. -/
  level : HeadingLevel
  /-- All that follows the name. -/
  after : Text

/-- The tag of a heading at the beginning of a text. -/
def headingTagAt? : Text → Option HeadingTag
  | '<' :: 'h' :: digit :: after =>
    (HeadingLevel.ofNumber? (digit.toNat - '0'.toNat)).map fun level => { level, after }
  | _ => none

/-- The tags of headings in a text, in order. -/
def headingTags : Text → List HeadingTag
  | [] => []
  | c :: rest => (headingTagAt? (c :: rest)).toList ++ headingTags rest

/-- The value that stands between an opening and the quote and the angle bracket which end a tag,
read back, and what follows them. -/
def valueBehind? (opening text : Text) : Option (Text × Text) :=
  if opening.isPrefixOf text then
    let written := (text.drop opening.length).takeWhile (· != '\x22')
    match (text.drop opening.length).dropWhile (· != '\x22') with
    | '\x22' :: '>' :: rest => some (decode written, rest)
    | _ => none
  else none

namespace HeadingTag

/-- The level and the id in a heading's tag, if there is an id and nothing else. -/
def levelAndId? (tag : HeadingTag) : Option (Nat × Text) :=
  (valueBehind? " id=\"" tag.after).map fun found => (tag.level.number, found.1)

/-- The heading begins with a link to the heading itself. -/
def LinksToItself (tag : HeadingTag) : Prop :=
  ∃ id after content, valueBehind? " id=\"" tag.after = some (id, after) ∧
    valueBehind? "<a href=\"" after = some ('#' :: id, content)

end HeadingTag

theorem valueBehind?_escape (opening value rest : Text) :
    valueBehind? opening (opening ++ (escape value ++ '\x22' :: '>' :: rest)) =
      some (value, rest) := by
  have unquoted := escape_unquoted value
  have before : opening.isPrefixOf (opening ++ (escape value ++ '\x22' :: '>' :: rest)) := by
    simp
  rw [valueBehind?, if_pos before, List.drop_left, List.takeWhile_append_of_pos unquoted,
    List.dropWhile_append_of_pos unquoted]
  simp [decode_escape]

/-! ## Markup without headings -/

namespace Vocabulary

/-- The words of documents, but for the names of headings. -/
def flat : Vocabulary where
  elements := body.elements ++ [("span" : Text)]
  attributes := body.attributes
  references := body.references ++ [("&#39;" : Text)]

theorem body_le_flat : body ≤ flat :=
  ⟨List.subset_append_left _ _, List.Subset.refl _, List.subset_append_left _ _⟩

theorem inserted_le_flat : inserted ≤ flat := by
  refine ⟨?_, ?_, ?_⟩ <;> decide

end Vocabulary

theorem headingTags_append_plain {left : Text} (plain : '<' ∉ left) (right : Text) :
    headingTags (left ++ right) = headingTags right := by
  induction left with
  | nil => rfl
  | cons c left induction =>
      simp only [List.mem_cons, not_or] at plain
      have none : headingTagAt? (c :: (left ++ right)) = none := by
        unfold headingTagAt?
        split
        · rename_i equality
          exact absurd (List.cons.inj equality).1.symm plain.1
        · rfl
      rw [List.cons_append, headingTags, none, induction plain.2]
      rfl

theorem headingTagAt?_flat {name : Text} (known : name ∈ Vocabulary.flat.elements)
    (rest : Text) : headingTagAt? ('<' :: (name ++ rest)) = none := by
  -- The only name that begins like that of a heading is the one of a rule.
  have unlike : ∀ name ∈ Vocabulary.flat.elements,
      name = "hr".toList ∨ name.head?.any (· != 'h') := by decide
  rcases unlike name known with rfl | unlike
  · rfl
  · cases name with
    | nil => simp at unlike
    | cons first name =>
        unfold headingTagAt?
        split
        · rename_i equality
          have begins : first = 'h' := (List.cons.inj (List.cons.inj equality).2).1
          simp [begins] at unlike
        · rfl

theorem headingTags_append_isTag {left : Text} (isTag : Vocabulary.flat.IsTag left)
    (right : Text) : headingTags (left ++ right) = headingTags right := by
  obtain ⟨name, known, rfl | ⟨attributes, isAttribute, rfl⟩⟩ := isTag
  · have plain : ∀ name ∈ Vocabulary.flat.elements, '<' ∉ '/' :: name ++ ['>'] := by decide
    exact headingTags_append_plain (plain name known) right
  · have plain : ∀ name ∈ Vocabulary.flat.elements, '<' ∉ name := by decide
    have behind : '<' ∉ name ++ attributes.flatten ++ ['>'] := by
      have flatPlain := Vocabulary.not_mem_flatten (.inl rfl) (by decide) isAttribute
      simp [plain name known, flatPlain]
    have none := headingTagAt?_flat known (attributes.flatten ++ ['>'] ++ right)
    have tail := headingTags_append_plain behind right
    simp only [List.cons_append, List.append_assoc] at none tail ⊢
    rw [headingTags, none, tail]
    rfl

/-- Markup without headings adds no tags of headings to what follows it. -/
theorem headingTags_append_isMarkup {left : Text} (isMarkup : Vocabulary.flat.IsMarkup left)
    (right : Text) : headingTags (left ++ right) = headingTags right := by
  obtain ⟨parts, sound, rfl⟩ := isMarkup
  induction parts with
  | nil => rfl
  | cons part parts induction =>
      simp only [List.mem_cons, forall_eq_or_imp] at sound
      rw [List.flatten_cons, List.append_assoc]
      rcases sound.1 with isText | isTag
      · rw [headingTags_append_plain isText.not_mem, induction sound.2]
      · rw [headingTags_append_isTag isTag, induction sound.2]

/-! ## A heading's tag -/

theorem headingTags_startTag (level : HeadingLevel) (id rest : Text) :
    headingTags ((Piece.startTag (headingName level) [.of "id" id]).write ++ rest) =
      { level, after := " id=\"".toList ++ (escape id ++ '\x22' :: '>' :: rest) } ::
        headingTags rest := by
  obtain ⟨digit, name, found, plain⟩ : ∃ digit, headingName level = ['h', digit] ∧
      HeadingLevel.ofNumber? (digit.toNat - '0'.toNat) = some level ∧ digit ≠ '<' := by
    cases level <;> exact ⟨_, rfl, rfl, by decide⟩
  have isText : Vocabulary.flat.IsText (escape id) := Vocabulary.isText_escape (by decide) id
  have behind : '<' ∉ 'h' :: digit :: " id=\"".toList ++ (escape id ++ ['\x22', '>']) := by
    simp [plain.symm, isText.not_mem]
  have tail := headingTags_append_plain behind rest
  have written : (Piece.startTag (headingName level) [.of "id" id]).write ++ rest =
      '<' :: 'h' :: digit :: (" id=\"".toList ++ (escape id ++ '\x22' :: '>' :: rest)) := by
    simp [Piece.write, name, Attribute.of, Attribute.write]
  have same : 'h' :: digit :: " id=\"".toList ++ (escape id ++ ['\x22', '>']) ++ rest =
      'h' :: digit :: (" id=\"".toList ++ (escape id ++ '\x22' :: '>' :: rest)) := by
    simp
  rw [same] at tail
  rw [written, headingTags, tail, headingTagAt?, found]
  rfl

/-- A heading with an id and a link to it at its beginning is found as such. -/
theorem headingTags_linkedHeading (level : HeadingLevel) (id content : Text) :
    ∃ tag : HeadingTag, tag.levelAndId? = some (level.number, id) ∧ tag.LinksToItself ∧
      headingTags ((Piece.startTag (headingName level) [.of "id" id]).write ++
          ((Piece.startTag "a" [.of "href" ('#' :: id)]).write ++ content)) =
        tag :: headingTags content := by
  let link := Piece.startTag "a" [.of "href" ('#' :: id)]
  let tag : HeadingTag :=
    { level, after := " id=\"".toList ++ (escape id ++ '\x22' :: '>' :: (link.write ++ content)) }
  have written : link.write ++ content =
      "<a href=\"".toList ++ (escape ('#' :: id) ++ '\x22' :: '>' :: content) := by
    simp [link, Piece.write, Attribute.of, Attribute.write]
  have within : link.Within .flat := Piece.within_startTag_of (by decide) (by decide) _
  refine ⟨tag, ?_, ?_, ?_⟩
  · rw [HeadingTag.levelAndId?, valueBehind?_escape]
    rfl
  · refine ⟨id, link.write ++ content, content, valueBehind?_escape _ _ _, ?_⟩
    rw [written, valueBehind?_escape]
  · rw [headingTags_startTag, headingTags_append_isMarkup (within.isMarkup_write (by decide))]

theorem headingTags_endTag (level : HeadingLevel) (rest : Text) :
    headingTags ((Piece.endTag (headingName level)).write ++ rest) = headingTags rest := by
  cases level <;> rfl

end DocSite.Html
