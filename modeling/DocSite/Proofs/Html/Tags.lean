import DocSite.Proofs.Html.Writing

/-!
# Tags in markup, and the elements that they open

The tags of markup are read off its text. Going through them from left to right, each one opens an
element or closes the latest one that is open; they fit together if that never fails and nothing is
open at the end.
-/

namespace DocSite.Html

/-! ## Tags in a text -/

/-- A tag as it is found in markup. -/
inductive TagMark
  | opening (name : Text)
  | closing (name : Text)
  deriving DecidableEq, Repr

namespace TagMark

/-- The name of the element. -/
def name : TagMark → Text
  | opening name => name
  | closing name => name

end TagMark

/-- The name at the beginning of a text, which ends before a space or an angle bracket. -/
def nameAt (text : Text) : Text :=
  text.takeWhile fun c => c != ' ' && c != '>'

/-- The tag whose opening bracket stands before a text. -/
def tagAt : Text → TagMark
  | '/' :: rest => .closing (nameAt rest)
  | rest => .opening (nameAt rest)

/-- The tags in a text, in order. -/
def tagsIn : Text → List TagMark
  | [] => []
  | c :: rest => if c == '<' then tagAt rest :: tagsIn rest else tagsIn rest

theorem tagsIn_append_plain {left : Text} (plain : '<' ∉ left) (right : Text) :
    tagsIn (left ++ right) = tagsIn right := by
  induction left with
  | nil => rfl
  | cons c left induction =>
      simp only [List.mem_cons, not_or] at plain
      rw [List.cons_append, tagsIn, if_neg (by simpa using Ne.symm plain.1), induction plain.2]

/-- The name of an element: it ends where a tag goes on, and no slash begins it. -/
def IsElementName (name : Text) : Prop :=
  ' ' ∉ name ∧ '>' ∉ name ∧ '<' ∉ name ∧ '/' ∉ name ∧ name ≠ []

instance (name : Text) : Decidable (IsElementName name) :=
  inferInstanceAs (Decidable (_ ∧ _))

namespace IsElementName

variable {name : Text}

theorem nameAt_append (isName : IsElementName name) {rest : Text}
    (stops : rest.head? = some ' ' ∨ rest.head? = some '>') : nameAt (name ++ rest) = name := by
  have inside : ∀ c ∈ name, (c != ' ' && c != '>') = true := by
    intro c member
    have space : c ≠ ' ' := fun equality => isName.1 (equality ▸ member)
    have bracket : c ≠ '>' := fun equality => isName.2.1 (equality ▸ member)
    simp [space, bracket]
  rw [nameAt, List.takeWhile_append_of_pos inside]
  cases rest with
  | nil => simp at stops
  | cons c rest =>
      have stop : c = ' ' ∨ c = '>' := by simpa using stops
      rw [List.takeWhile_cons_of_neg (by rcases stop with rfl | rfl <;> decide), List.append_nil]

theorem tagAt_append (isName : IsElementName name) {rest : Text}
    (stops : rest.head? = some ' ' ∨ rest.head? = some '>') :
    tagAt (name ++ rest) = .opening name := by
  cases name with
  | nil => exact (isName.2.2.2.2 rfl).elim
  | cons c name =>
      have slash : c ≠ '/' := fun equality => isName.2.2.2.1 (by simp [equality])
      have found := isName.nameAt_append stops
      unfold tagAt
      split
      · rename_i equality
        exact (slash (List.cons.inj equality).1).elim
      · rw [found]

theorem not_mem (isName : IsElementName name) : '<' ∉ name :=
  isName.2.2.1

/-- A tag of an element, whatever stands between its name and its end. -/
theorem tagsIn_opening (isName : IsElementName name) {between : Text} (plain : '<' ∉ between)
    (stops : between = [] ∨ between.head? = some ' ') (rest : Text) :
    tagsIn ('<' :: name ++ between ++ ['>'] ++ rest) = .opening name :: tagsIn rest := by
  have behind : '<' ∉ name ++ between ++ ['>'] := by simp [isName.not_mem, plain]
  have tag : tagAt (name ++ (between ++ ['>'] ++ rest)) = .opening name := by
    apply isName.tagAt_append
    rcases stops with rfl | space
    · exact .inr rfl
    · exact .inl (by simp [space])
  have tail := tagsIn_append_plain behind rest
  simp only [List.cons_append, List.append_assoc] at tag tail ⊢
  rw [tagsIn, if_pos (by decide), tag, tail]

theorem tagsIn_closing (isName : IsElementName name) (rest : Text) :
    tagsIn ('<' :: '/' :: name ++ ['>'] ++ rest) = .closing name :: tagsIn rest := by
  have behind : '<' ∉ '/' :: name ++ ['>'] := by simp [isName.not_mem]
  have found : nameAt (name ++ (['>'] ++ rest)) = name := isName.nameAt_append (.inr rfl)
  have tail := tagsIn_append_plain behind rest
  simp only [List.cons_append, List.append_assoc] at found tail ⊢
  rw [tagsIn, if_pos (by decide), tail, tagAt, found]

end IsElementName

/-! ## Tags in markup -/

namespace Vocabulary

/-- Tags can be read back from markup in the vocabulary. -/
structure Readable (words : Vocabulary) : Prop where
  isElementName : ∀ name ∈ words.elements, IsElementName name
  plain : ∀ name ∈ words.attributes, '<' ∉ name

theorem readable_document : document.Readable where
  isElementName := by decide
  plain := by decide

variable {words : Vocabulary} {text : Text}

theorem tagsIn_opening (readable : words.Readable) {name : Text} (known : name ∈ words.elements)
    {attributes : List Text} (isAttribute : ∀ attr ∈ attributes, words.IsAttribute attr)
    (rest : Text) :
    tagsIn ('<' :: name ++ attributes.flatten ++ ['>'] ++ rest) =
      .opening name :: tagsIn rest := by
  have plain := not_mem_flatten (.inl rfl) readable.plain isAttribute
  have stops : attributes.flatten = [] ∨ attributes.flatten.head? = some ' ' := by
    cases attributes with
    | nil => exact .inl rfl
    | cons attr attributes =>
        have space := (isAttribute attr (by simp)).head?_eq
        exact .inr (by simp [space])
  exact (readable.isElementName name known).tagsIn_opening plain stops rest

theorem IsTag.exists_tag (isTag : words.IsTag text) (readable : words.Readable) :
    ∃ tag, ∀ rest, tagsIn (text ++ rest) = tag :: tagsIn rest := by
  obtain ⟨name, known, rfl | ⟨attributes, isAttribute, rfl⟩⟩ := isTag
  · exact ⟨.closing name, (readable.isElementName name known).tagsIn_closing⟩
  · exact ⟨.opening name, tagsIn_opening readable known isAttribute⟩

/-- What follows markup does not change its tags. -/
theorem IsMarkup.tagsIn_append (isMarkup : words.IsMarkup text) (readable : words.Readable)
    (rest : Text) : tagsIn (text ++ rest) = tagsIn text ++ tagsIn rest := by
  obtain ⟨parts, sound, rfl⟩ := isMarkup
  induction parts with
  | nil => rfl
  | cons part parts induction =>
      simp only [List.mem_cons, forall_eq_or_imp] at sound
      rw [List.flatten_cons, List.append_assoc]
      rcases sound.1 with isText | isTag
      · rw [tagsIn_append_plain isText.not_mem, tagsIn_append_plain isText.not_mem,
          induction sound.2]
      · obtain ⟨tag, found⟩ := isTag.exists_tag readable
        rw [found, found, induction sound.2]
        rfl

end Vocabulary

namespace Piece

/-- The tags of a piece. -/
def tags : Piece → List TagMark
  | startTag name _ => [.opening name]
  | endTag name => [.closing name]
  | text _ => []
  | markup written => tagsIn written

variable {words : Vocabulary}

theorem tagsIn_write (readable : words.Readable) (known : Vocabulary.escapes ⊆ words.references)
    {piece : Piece} (within : piece.Within words) : tagsIn piece.write = piece.tags := by
  have alone (text : Text) : text = text ++ [] := (List.append_nil text).symm
  cases piece with
  | startTag name attributes =>
      have isAttribute := isAttribute_of_mem_map_write known within.2
      rw [alone (write _)]
      exact Vocabulary.tagsIn_opening readable within.1 isAttribute []
  | endTag name =>
      rw [alone (write _)]
      exact (readable.isElementName name within).tagsIn_closing []
  | text content =>
      have isText : words.IsText (escape content) := Vocabulary.isText_escape known content
      rw [alone (write _)]
      exact tagsIn_append_plain isText.not_mem []
  | markup written => rfl

theorem tagsIn_write_append (readable : words.Readable)
    (known : Vocabulary.escapes ⊆ words.references) {piece : Piece} (within : piece.Within words)
    (rest : Text) : tagsIn (piece.write ++ rest) = piece.tags ++ tagsIn rest := by
  rw [(within.isMarkup_write known).tagsIn_append readable, tagsIn_write readable known within]

theorem tagsIn_writeAll (readable : words.Readable)
    (known : Vocabulary.escapes ⊆ words.references) {pieces : List Piece}
    (within : ∀ piece ∈ pieces, piece.Within words) :
    tagsIn (writeAll pieces) = pieces.flatMap tags := by
  induction pieces with
  | nil => rfl
  | cons piece pieces induction =>
      simp only [List.mem_cons, forall_eq_or_imp] at within
      rw [writeAll, List.flatMap_cons, List.flatMap_cons,
        tagsIn_write_append readable known within.1]
      exact congrArg (piece.tags ++ ·) (induction within.2)

end Piece

/-! ## Open elements -/

/-- The elements that hold nothing and have no closing tag. -/
def voidElements : List Text :=
  (["area", "base", "br", "col", "embed", "hr", "img", "input", "link", "meta", "source", "track",
    "wbr"] : List String).map String.toList

namespace TagMark

/-- The elements that are open behind a tag, innermost first. A link cannot open inside a link, and
only the innermost element can close. -/
def openAfter? (opened : List Text) : TagMark → Option (List Text)
  | opening name =>
    if name ∈ voidElements then some opened
    else if name = "a" ∧ name ∈ opened then none
    else some (name :: opened)
  | closing name =>
    match opened with
    | [] => none
    | inner :: outer => if inner = name then some outer else none

end TagMark

/-- The elements that are open behind some tags, if all of them can be there. -/
def openAfter? (opened : List Text) (tags : List TagMark) : Option (List Text) :=
  tags.foldlM TagMark.openAfter? opened

/-- The tags without those of spans. -/
def withoutSpans (tags : List TagMark) : List TagMark :=
  tags.filter fun tag => tag.name != "span"

namespace Piece

/-- Writing the pieces where some elements are open leaves others open. -/
def Leads (before : List Text) (pieces : List Piece) (after : List Text) : Prop :=
  openAfter? before (withoutSpans (pieces.flatMap tags)) = some after

/-- An element that is closed by a tag and can stand anywhere. -/
def IsPlainElement (name : Text) : Prop :=
  name ∉ voidElements ∧ name ≠ "span" ∧ name ≠ "a"

instance (name : Text) : Decidable (IsPlainElement name) :=
  inferInstanceAs (Decidable (_ ∧ _))

namespace Leads

variable {before between after : List Text} {left right rest : List Piece} {name : Text}

theorem append (first : Leads before left between) (second : Leads between right after) :
    Leads before (left ++ right) after := by
  unfold Leads withoutSpans openAfter? at first second ⊢
  rw [List.flatMap_append, List.filter_append, List.foldlM_append, first]
  exact second

theorem refl (opened : List Text) : Leads opened [] opened :=
  rfl

@[simp] theorem text_cons (content : Text) :
    Leads before (.text content :: rest) after ↔ Leads before rest after :=
  Iff.rfl

private theorem opening_cons (attributes : List Attribute) (visible : name ≠ "span") :
    Leads before (.startTag name attributes :: rest) after ↔
      (TagMark.openAfter? before (.opening name)).bind
        (openAfter? · (withoutSpans (rest.flatMap tags))) = some after := by
  have kept : withoutSpans ((startTag name attributes :: rest).flatMap tags) =
      .opening name :: withoutSpans (rest.flatMap tags) :=
    List.filter_cons_of_pos (by simpa [TagMark.name] using visible)
  rw [Leads, kept]
  rfl

theorem void_cons (attributes : List Attribute) (void : name ∈ voidElements) :
    Leads before (.startTag name attributes :: rest) after ↔ Leads before rest after := by
  have visible : name ≠ "span" := by
    rintro rfl
    exact absurd void (by decide)
  rw [opening_cons attributes visible, TagMark.openAfter?, if_pos void]
  rfl

theorem startTag_cons (attributes : List Attribute) (plain : IsPlainElement name) :
    Leads before (.startTag name attributes :: rest) after ↔
      Leads (name :: before) rest after := by
  rw [opening_cons attributes plain.2.1, TagMark.openAfter?, if_neg plain.1,
    if_neg (fun link => plain.2.2 link.1)]
  rfl

theorem link_cons (attributes : List Attribute) (outside : ("a" : Text) ∉ before) :
    Leads before (.startTag "a" attributes :: rest) after ↔ Leads ("a" :: before) rest after := by
  rw [opening_cons attributes (by decide), TagMark.openAfter?, if_neg (by decide),
    if_neg (fun link => outside link.2)]
  rfl

theorem endTag_cons (visible : name ≠ "span") :
    Leads (name :: before) (.endTag name :: rest) after ↔ Leads before rest after := by
  have kept : withoutSpans ((endTag name :: rest).flatMap tags) =
      .closing name :: withoutSpans (rest.flatMap tags) :=
    List.filter_cons_of_pos (by simpa [TagMark.name] using visible)
  have closes : TagMark.openAfter? (name :: before) (.closing name) = some before := if_pos rfl
  rw [Leads, kept, openAfter?, List.foldlM_cons, closes]
  rfl

theorem markup_cons {written : Text} (spans : withoutSpans (tagsIn written) = []) :
    Leads before (.markup written :: rest) after ↔ Leads before rest after := by
  have dropped : withoutSpans ((markup written :: rest).flatMap tags) =
      withoutSpans (rest.flatMap tags) := by
    rw [List.flatMap_cons, withoutSpans, List.filter_append]
    exact congrArg (· ++ withoutSpans (rest.flatMap tags)) spans
  rw [Leads, dropped, Leads]

theorem markup_writeAll {words : Vocabulary} (readable : words.Readable)
    (known : Vocabulary.escapes ⊆ words.references) {pieces : List Piece}
    (within : ∀ piece ∈ pieces, piece.Within words) :
    Leads before [.markup (writeAll pieces)] after ↔ Leads before pieces after := by
  have same : [markup (writeAll pieces)].flatMap tags = pieces.flatMap tags := by
    simpa [tags] using tagsIn_writeAll readable known within
  rw [Leads, same, Leads]

theorem markup_write {words : Vocabulary} (readable : words.Readable)
    (known : Vocabulary.escapes ⊆ words.references) {piece : Piece}
    (within : piece.Within words) :
    Leads before [.markup piece.write] after ↔ Leads before [piece] after := by
  have alone : writeAll [piece] = piece.write := by simp [writeAll]
  rw [← alone]
  exact markup_writeAll readable known (List.forall_mem_singleton.mpr within)

end Leads

end Piece

end DocSite.Html
