import DocSite.Proofs.Html.Tags

/-!
# Where marks stand in markup

A mark is a text that begins with a tag. Markup in which no tag is like that one has no place for
the mark, and what follows such markup has just its own places.
-/

namespace DocSite.Html

/-! ## Places of a mark -/

/-- The texts behind all places where a mark stands, in order. -/
def behindEach (mark : Text) : Text → List Text
  | [] => []
  | c :: rest =>
    if mark.isPrefixOf (c :: rest) then
      (c :: rest).drop mark.length :: behindEach mark rest
    else behindEach mark rest

/-- A text adds no places of a mark to those in what follows it. -/
def Lacks (mark left : Text) : Prop :=
  ∀ right, behindEach mark (left ++ right) = behindEach mark right

namespace Lacks

variable {mark left right : Text}

theorem nil (mark : Text) : Lacks mark [] :=
  fun _ => rfl

theorem append (lacksLeft : Lacks mark left) (lacksRight : Lacks mark right) :
    Lacks mark (left ++ right) := by
  intro rest
  rw [List.append_assoc, lacksLeft, lacksRight]

theorem flatten {parts : List Text} (each : ∀ part ∈ parts, Lacks mark part) :
    Lacks mark parts.flatten := by
  induction parts with
  | nil => exact nil mark
  | cons part parts induction =>
      simp only [List.mem_cons, forall_eq_or_imp] at each
      exact each.1.append (induction each.2)

end Lacks

theorem behindEach_mark {mark : Text} (any : mark ≠ []) (rest : Text) :
    behindEach mark (mark ++ rest) = rest :: behindEach mark (mark.tail ++ rest) := by
  obtain ⟨c, inner, rfl⟩ := List.exists_cons_of_ne_nil any
  have stands : (c :: inner).isPrefixOf (c :: (inner ++ rest)) = true := by simp
  rw [List.cons_append, behindEach, if_pos stands]
  simp

/-- Whatever stands before a text, its places are the last ones. -/
theorem behindEach_append_suffix (mark left right : Text) :
    behindEach mark right <:+ behindEach mark (left ++ right) := by
  induction left with
  | nil => exact List.suffix_rfl
  | cons c left induction =>
      rw [List.cons_append, behindEach]
      split
      · exact induction.trans (List.suffix_cons _ _)
      · exact induction

/-- The last place of a mark is found if the mark stands neither in itself nor behind itself. -/
theorem getLast?_behindEach {mark rest : Text} (any : mark ≠ [])
    (last : behindEach mark (mark.tail ++ rest) = []) (before : Text) :
    (behindEach mark (before ++ (mark ++ rest))).getLast? = some rest := by
  have found : behindEach mark (mark ++ rest) = [rest] := by rw [behindEach_mark any, last]
  obtain ⟨front, split⟩ := behindEach_append_suffix mark before (mark ++ rest)
  rw [← split, found, List.getLast?_concat]

/-! ## Tags unlike the mark -/

/-- A mark begins with a certain tag, whatever follows the mark. -/
def Begins (mark : Text) (tag : TagMark) : Prop :=
  ∃ inner, mark = '<' :: inner ∧ ∀ rest, tagAt (inner ++ rest) = tag

variable {mark left : Text} {tag : TagMark}

theorem Begins.ne_nil (begins : Begins mark tag) : mark ≠ [] := by
  obtain ⟨inner, rfl, -⟩ := begins
  exact List.cons_ne_nil _ _

theorem Begins.lacks_plain (begins : Begins mark tag) (plain : '<' ∉ left) : Lacks mark left := by
  obtain ⟨inner, rfl, -⟩ := begins
  intro right
  induction left with
  | nil => rfl
  | cons c left induction =>
      simp only [List.mem_cons, not_or] at plain
      have other : ('<' :: inner).isPrefixOf (c :: (left ++ right)) = false := by
        simp [List.isPrefixOf, plain.1]
      rw [List.cons_append, behindEach, other]
      exact induction plain.2

theorem Begins.lacks_tag (begins : Begins mark tag) {body : Text} (plain : '<' ∉ body)
    {found : TagMark} (reads : ∀ rest, tagAt (body ++ rest) = found) (other : found ≠ tag) :
    Lacks mark ('<' :: body) := by
  have tail : Lacks mark body := begins.lacks_plain plain
  obtain ⟨inner, rfl, marks⟩ := begins
  intro right
  have absent : ('<' :: inner).isPrefixOf ('<' :: (body ++ right)) = false := by
    rw [Bool.eq_false_iff]
    intro stands
    obtain ⟨rest, split⟩ : inner <+: body ++ right := by simpa using stands
    have same := marks rest
    rw [split, reads right] at same
    exact other same
  rw [List.cons_append, behindEach, absent]
  exact tail right

namespace Vocabulary

variable {words : Vocabulary} {text : Text}

/-- A tag is a bracket and what is read as the tag of an element in the vocabulary. -/
theorem IsTag.exists_body (isTag : words.IsTag text) (readable : words.Readable) :
    ∃ body found, text = '<' :: body ∧ '<' ∉ body ∧ found.name ∈ words.elements ∧
      ∀ rest, tagAt (body ++ rest) = found := by
  obtain ⟨name, known, rfl | ⟨attributes, isAttribute, rfl⟩⟩ := isTag
  · have isName := readable.isElementName name known
    refine ⟨'/' :: name ++ ['>'], .closing name, rfl, ?_, known, fun rest => ?_⟩
    · simp [isName.not_mem]
    · have found : nameAt (name ++ ('>' :: rest)) = name := isName.nameAt_append (.inr rfl)
      simp [tagAt, found]
  · have isName := readable.isElementName name known
    have plain := not_mem_flatten (.inl rfl) readable.plain isAttribute
    refine ⟨name ++ (attributes.flatten ++ ['>']), .opening name, by simp, ?_, known,
      fun rest => ?_⟩
    · simp [isName.not_mem, plain]
    · rw [List.append_assoc]
      apply isName.tagAt_append
      cases attributes with
      | nil => exact .inr rfl
      | cons attr attributes =>
          have space := (isAttribute attr (by simp)).head?_eq
          exact .inl (by simp [space])

/-- Markup has no place for a mark whose tag is none of its vocabulary. -/
theorem IsMarkup.lacks (isMarkup : words.IsMarkup text) (readable : words.Readable)
    (begins : Begins mark tag) (other : tag.name ∉ words.elements) : Lacks mark text := by
  obtain ⟨parts, sound, rfl⟩ := isMarkup
  refine Lacks.flatten fun part member => ?_
  rcases sound part member with isText | isTag
  · exact begins.lacks_plain isText.not_mem
  · obtain ⟨body, found, rfl, plain, known, reads⟩ := isTag.exists_body readable
    refine begins.lacks_tag plain reads ?_
    rintro rfl
    exact other known

end Vocabulary

end DocSite.Html
