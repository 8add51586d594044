import DocSite.Proofs.Html.Decoding
import DocSite.Proofs.Html.Skeleton

/-!
# What a reader of markup does not see

A reader that is in a text sees the names in a tag, and neither what stands between tags nor the
values of attributes. A reader that is somewhere else may be lost: in a comment, in a value that an
apostrophe ends, or in an element whose content is no markup. Pieces of markup with other names do
not wake it. So two lists of pieces with the same names look the same to both.
-/

namespace DocSite.Html

variable {found : List TagForm} {tag : TagForm} {text : Text}

namespace Scan

/-! ## Parts of tags -/

theorem readAll_name (plain : ∀ c ∈ text, Text.isAsciiAlphanumeric c = true) :
    readAll ⟨found, .name tag⟩ text = ⟨found, .name { tag with name := tag.name ++ text }⟩ := by
  induction text generalizing tag with
  | nil => simp
  | cons c text induction =>
      obtain ⟨first, plain⟩ := List.forall_mem_cons.mp plain
      have step : next ⟨found, .name tag⟩ c =
          ⟨found, .name { tag with name := tag.name ++ [c] }⟩ := by
        simp [next, Spot.move, goesOn_of_plain first]
      rw [readAll_cons, step, induction plain]
      simp

theorem readAll_key {read : Text} (plain : ∀ c ∈ text, Text.isAsciiAlphanumeric c = true) :
    readAll ⟨found, .key tag read⟩ text = ⟨found, .key tag (read ++ text)⟩ := by
  induction text generalizing read with
  | nil => simp
  | cons c text induction =>
      obtain ⟨first, plain⟩ := List.forall_mem_cons.mp plain
      have step : next ⟨found, .key tag read⟩ c = ⟨found, .key tag (read ++ [c])⟩ := by
        simp [next, Spot.move, goesOn_of_plain first]
      rw [readAll_cons, step, induction plain]
      simp

/-- What stands in a value is not seen. -/
theorem readAll_quoted {quote : QuoteMark} (inside : quote.char ∉ text) :
    readAll ⟨found, .quoted tag quote⟩ text = ⟨found, .quoted tag quote⟩ := by
  induction text with
  | nil => rfl
  | cons c text induction =>
      rw [List.mem_cons, not_or] at inside
      have step : next ⟨found, .quoted tag quote⟩ c = ⟨found, .quoted tag quote⟩ := by
        simp [next, Spot.move, Ne.symm inside.1]
      rw [readAll_cons, step, induction inside.2]

/-- A text without brackets is not seen. -/
theorem readAll_text (plain : '<' ∉ text) : readAll ⟨found, .text⟩ text = ⟨found, .text⟩ := by
  induction text with
  | nil => rfl
  | cons c text induction =>
      rw [List.mem_cons, not_or] at plain
      have step : next ⟨found, .text⟩ c = ⟨found, .text⟩ := by
        simp [next, Spot.move, Ne.symm plain.1]
      rw [readAll_cons, step, induction plain.2]

theorem next_blank {spot : Spot} (starts : spot = .name tag ∨ spot = .between tag) :
    next ⟨found, spot⟩ ' ' = ⟨found, .between tag⟩ := by
  rcases starts with rfl | rfl <;> rfl

theorem next_end {spot : Spot} (starts : spot = .name tag ∨ spot = .between tag) :
    next ⟨found, spot⟩ '>' = ⟨found ++ [tag], tag.behind⟩ := by
  rcases starts with rfl | rfl <;> rfl

/-- Up to its value, an attribute is seen by its name. -/
theorem readAll_beforeValue {spot : Spot} (starts : spot = .name tag ∨ spot = .between tag)
    {key : Text} (plain : IsPlainName key) :
    readAll ⟨found, spot⟩ (' ' :: key ++ ['=', '\x22']) =
      ⟨found, .quoted (tag.withAttribute key) .double⟩ := by
  obtain ⟨c, rest, rfl, letter, plain⟩ := plain.exists_cons
  have first : Text.isAsciiAlphanumeric c = true := by simp [Text.isAsciiAlphanumeric, letter]
  have step : next ⟨found, .between tag⟩ c = ⟨found, .key tag [c]⟩ := by
    simp [next, Spot.move, moveBetween, goesOn_of_plain first]
  simp only [List.cons_append, readAll_cons, readAll_append, next_blank starts, step,
    readAll_key plain]
  rfl

end Scan

/-! ## Pieces -/

/-- An attribute with a plain name and a value. -/
def Attribute.IsPlain (attr : Attribute) : Prop :=
  IsPlainName attr.name ∧ attr.value.isSome = true

instance (attr : Attribute) : Decidable attr.IsPlain :=
  inferInstanceAs (Decidable (_ ∧ _))

namespace Scan

theorem readAll_write_attribute {spot : Spot} (starts : spot = .name tag ∨ spot = .between tag)
    {attr : Attribute} (plain : attr.IsPlain) :
    readAll ⟨found, spot⟩ attr.write = ⟨found, .between (tag.withAttribute attr.name)⟩ := by
  obtain ⟨key, value⟩ := attr
  obtain ⟨value, rfl⟩ := Option.isSome_iff_exists.mp plain.2
  have unquoted : QuoteMark.double.char ∉ escape value := fun member => by
    simpa [QuoteMark.char] using escape_unquoted value _ member
  have split : Attribute.write ⟨key, some value⟩ =
      (' ' :: key ++ ['=', '\x22']) ++ (escape value ++ ['\x22']) := by
    simp [Attribute.write]
  rw [split, readAll_append, readAll_beforeValue starts plain.1, readAll_append,
    readAll_quoted unquoted]
  rfl

theorem readAll_attributes {attributes : List Attribute}
    (plain : ∀ attr ∈ attributes, attr.IsPlain) {spot : Spot}
    (starts : spot = .name tag ∨ spot = .between tag) :
    readAll ⟨found, spot⟩ (attributes.flatMap Attribute.write ++ ['>']) =
      ⟨found ++ [{ tag with attributes := tag.attributes ++ attributes.map Attribute.name }],
        tag.behind⟩ := by
  induction attributes generalizing tag spot with
  | nil => simp [next_end starts]
  | cons attr attributes induction =>
      obtain ⟨first, plain⟩ := List.forall_mem_cons.mp plain
      rw [List.flatMap_cons, List.append_assoc, readAll_append,
        readAll_write_attribute starts first, induction plain (.inr rfl)]
      have behind : (tag.withAttribute attr.name).behind = tag.behind := rfl
      rw [behind]
      simp [TagForm.withAttribute]

theorem readAll_startTag {name : Text} {attributes : List Attribute} (named : IsPlainName name)
    (plain : ∀ attr ∈ attributes, attr.IsPlain) :
    readAll ⟨found, .text⟩ (Piece.startTag name attributes).write =
      ⟨found ++ [⟨false, name, attributes.map Attribute.name⟩],
        (RawElement.of? name).elim .text (.raw · .inside)⟩ := by
  obtain ⟨c, rest, rfl, letter, others⟩ := named.exists_cons
  have opened : readAll ⟨found, .text⟩ ['<', c] = ⟨found, .name ⟨false, [c], []⟩⟩ := by
    simp [next, Spot.move, letter]
  have split : (Piece.startTag (c :: rest) attributes).write =
      ['<', c] ++ (rest ++ (attributes.flatMap Attribute.write ++ ['>'])) := by
    simp [Piece.write]
  rw [split, readAll_append, opened, readAll_append, readAll_name others,
    readAll_attributes plain (.inl rfl)]
  rfl

theorem readAll_endTag {name : Text} (named : IsPlainName name) :
    readAll ⟨found, .text⟩ (Piece.endTag name).write = ⟨found ++ [⟨true, name, []⟩], .text⟩ := by
  obtain ⟨c, rest, rfl, letter, others⟩ := named.exists_cons
  have opened : readAll ⟨found, .text⟩ ['<', '/', c] = ⟨found, .name ⟨true, [c], []⟩⟩ := by
    have slash : Text.isAsciiLetter '/' = false := by decide
    simp [next, Spot.move, letter, slash]
  have split : (Piece.endTag (c :: rest)).write = ['<', '/', c] ++ (rest ++ ['>']) := by
    simp [Piece.write]
  rw [split, readAll_append, opened, readAll_append, readAll_name others, readAll_cons,
    readAll_nil, next_end (.inl rfl)]
  rfl

end Scan

/-! ## Characters of tags -/

/-- The characters that must not stand in a tag, if a lost reader is not to wake there. -/
def wakers : List Char := ['<', '>', '\x27']

theorem eq_of_wakes {mark : Char} (wakes : mark ∈ wakers) :
    mark = '<' ∨ mark = '>' ∨ mark = '\x27' := by
  simpa [wakers] using wakes

theorem not_mem_escape {mark : Char} (wakes : mark ∈ wakers) (text : Text) :
    mark ∉ escape text := by
  have isText : (⟨[], [], Vocabulary.escapes⟩ : Vocabulary).IsText (escape text) :=
    Vocabulary.isText_escape (List.Subset.refl _) text
  intro member
  obtain ⟨less, greater, -, apostrophe⟩ := isText.1 mark member
  rcases eq_of_wakes wakes with bracket | bracket | quote
  · exact less bracket
  · exact greater bracket
  · exact apostrophe quote

theorem not_mem_of_plain {mark : Char} (wakes : mark ∈ wakers) {name : Text}
    (plain : IsPlainName name) : mark ∉ name := by
  have unlike : Text.isAsciiAlphanumeric mark = false := by
    rcases eq_of_wakes wakes with rfl | rfl | rfl <;> decide
  exact fun member => ne_of_plain (plain.plain mark member) unlike rfl

theorem Attribute.not_mem_write {mark : Char} (wakes : mark ∈ wakers) {attr : Attribute}
    (plain : attr.IsPlain) : mark ∉ attr.write := by
  obtain ⟨key, value⟩ := attr
  obtain ⟨value, rfl⟩ := Option.isSome_iff_exists.mp plain.2
  have unlike : mark ≠ ' ' ∧ mark ≠ '=' ∧ mark ≠ '\x22' := by
    rcases eq_of_wakes wakes with rfl | rfl | rfl <;> decide
  have name := not_mem_of_plain wakes plain.1
  simpa [write, unlike, not_mem_escape wakes] using name

/-- What stands between the brackets of a tag that opens an element. -/
def startText (name : Text) (attributes : List Attribute) : Text :=
  name ++ attributes.flatMap Attribute.write

theorem write_startTag (name : Text) (attributes : List Attribute) :
    (Piece.startTag name attributes).write = '<' :: startText name attributes ++ ['>'] :=
  rfl

section StartText

variable {name : Text} {attributes : List Attribute} (named : IsPlainName name)
  (plain : ∀ attr ∈ attributes, attr.IsPlain)
include named plain

theorem not_mem_startText {mark : Char} (wakes : mark ∈ wakers) :
    mark ∉ startText name attributes := by
  intro member
  rcases List.mem_append.mp member with inName | inAttributes
  · exact not_mem_of_plain wakes named inName
  · obtain ⟨attr, present, inside⟩ := List.mem_flatMap.mp inAttributes
    exact Attribute.not_mem_write wakes (plain attr present) inside

/-- Before its closing bracket, a tag has a letter or digit of a name or a quotation mark. -/
theorem exists_startText_eq :
    ∃ front last, startText name attributes = front ++ [last] ∧ last ≠ '-' ∧ last ≠ '!' := by
  rcases List.eq_nil_or_concat attributes with rfl | ⟨others, attr, rfl⟩
  · obtain ⟨c, rest, rfl, -⟩ := named.exists_cons
    have isLast := named.plain _ (List.getLast_mem (List.cons_ne_nil c rest))
    refine ⟨(c :: rest).dropLast, _, ?_, ne_of_plain isLast (by decide),
      ne_of_plain isLast (by decide)⟩
    rw [startText, List.flatMap_nil, List.append_nil, List.dropLast_concat_getLast]
  · obtain ⟨key, value⟩ := attr
    obtain ⟨value, rfl⟩ := Option.isSome_iff_exists.mp (plain ⟨key, value⟩ (by simp)).2
    refine ⟨name ++ others.flatMap Attribute.write ++ ' ' :: key ++ '=' :: '\x22' :: escape value,
      '\x22', ?_, by decide, by decide⟩
    simp [startText, Attribute.write]

end StartText

namespace Scan

/-! ## Lost readers -/

theorem readAll_comment {mark : CommentMark} (inside : '>' ∉ text) :
    ∃ after, readAll ⟨found, .comment mark⟩ text = ⟨found, .comment after⟩ := by
  induction text generalizing mark with
  | nil => exact ⟨mark, rfl⟩
  | cons c text induction =>
      rw [List.mem_cons, not_or] at inside
      have step : ∃ after, next ⟨found, .comment mark⟩ c = ⟨found, .comment after⟩ := by
        have other : c ≠ '>' := Ne.symm inside.1
        cases mark <;> exact ⟨_, by simp [next, Spot.move, CommentMark.next?, other]; rfl⟩
      obtain ⟨after, step⟩ := step
      rw [readAll_cons, step]
      exact induction inside.2

/-- A closing bracket behind a character that belongs to no end of a comment ends no comment. -/
theorem readAll_comment_end {mark : CommentMark} {last : Char} (inside : '>' ∉ text)
    (bracket : last ≠ '>') (hyphen : last ≠ '-') (exclamation : last ≠ '!') :
    readAll ⟨found, .comment mark⟩ (text ++ [last, '>']) = ⟨found, .comment .inside⟩ := by
  obtain ⟨after, read⟩ : ∃ after, readAll ⟨found, .comment mark⟩ text =
      ⟨found, .comment after⟩ := readAll_comment inside
  rw [readAll_append, read]
  cases after <;>
    simp [next, Spot.move, CommentMark.next?, bracket, hyphen, exclamation]

theorem readAll_raw {element : RawElement} (plain : '<' ∉ text) :
    readAll ⟨found, .raw element .inside⟩ text = ⟨found, .raw element .inside⟩ := by
  induction text with
  | nil => rfl
  | cons c text induction =>
      rw [List.mem_cons, not_or] at plain
      have step : next ⟨found, .raw element .inside⟩ c = ⟨found, .raw element .inside⟩ := by
        simp [next, Spot.move, RawMark.move, Ne.symm plain.1]
      rw [readAll_cons, step, induction plain.2]

/-- The end of a tag whose name is another one closes no element. -/
theorem readAll_raw_name {element : RawElement} {read : Text}
    (plain : ∀ c ∈ text, Text.isAsciiAlphanumeric c = true)
    (other : element.isClosedBy (read ++ text) = false) :
    readAll ⟨found, .raw element (.name read)⟩ (text ++ ['>']) =
      ⟨found, .raw element .inside⟩ := by
  induction text generalizing read with
  | nil =>
      rw [List.append_nil] at other
      have letter : Text.isAsciiLetter '>' = false := by decide
      simp [next, Spot.move, RawMark.move, other, letter]
  | cons c text induction =>
      obtain ⟨first, plain⟩ := List.forall_mem_cons.mp plain
      rw [List.cons_append, readAll_cons]
      by_cases letter : Text.isAsciiLetter c
      · have step : next ⟨found, .raw element (.name read)⟩ c =
            ⟨found, .raw element (.name (read ++ [c]))⟩ := by
          simp [next, Spot.move, RawMark.move, letter]
        rw [step]
        exact induction plain (by simpa using other)
      · have unlike : c ≠ '<' := ne_of_plain first (by decide)
        have step : next ⟨found, .raw element (.name read)⟩ c =
            ⟨found, .raw element .inside⟩ := by
          simp [next, Spot.move, RawMark.move, letter, goesOn_of_plain first, unlike]
        rw [step]
        refine readAll_raw fun member => ?_
        rcases List.mem_append.mp member with later | bracket
        · exact ne_of_plain (plain _ later) (by decide) rfl
        · nomatch List.mem_singleton.mp bracket

/-! ## Pieces for lost readers -/

theorem readAll_single_startTag {name : Text} {attributes : List Attribute}
    (named : IsPlainName name) (plain : ∀ attr ∈ attributes, attr.IsPlain) :
    readAll ⟨found, .quoted tag .single⟩ (Piece.startTag name attributes).write =
      ⟨found, .quoted tag .single⟩ := by
  have inside : '\x27' ∉ startText name attributes :=
    not_mem_startText named plain (by decide)
  apply readAll_quoted
  simpa [write_startTag, QuoteMark.char] using inside

theorem readAll_comment_startTag {mark : CommentMark} {name : Text} {attributes : List Attribute}
    (named : IsPlainName name) (plain : ∀ attr ∈ attributes, attr.IsPlain) :
    readAll ⟨found, .comment mark⟩ (Piece.startTag name attributes).write =
      ⟨found, .comment .inside⟩ := by
  have inside : '>' ∉ startText name attributes := not_mem_startText named plain (by decide)
  obtain ⟨front, last, split, hyphen, exclamation⟩ := exists_startText_eq named plain
  rw [split, List.mem_append, List.mem_singleton, not_or] at inside
  have written : (Piece.startTag name attributes).write = '<' :: front ++ [last, '>'] := by
    rw [write_startTag, split]
    simp
  rw [written]
  exact readAll_comment_end (by simp [inside.1]) (Ne.symm inside.2) hyphen exclamation

theorem readAll_raw_startTag {element : RawElement} {name : Text} {attributes : List Attribute}
    (named : IsPlainName name) (plain : ∀ attr ∈ attributes, attr.IsPlain) :
    readAll ⟨found, .raw element .inside⟩ (Piece.startTag name attributes).write =
      ⟨found, .raw element .inside⟩ := by
  have inside : '<' ∉ startText name attributes := not_mem_startText named plain (by decide)
  obtain ⟨c, rest, rfl, letter, -⟩ := named.exists_cons
  have first : Text.isAsciiAlphanumeric c = true := by simp [Text.isAsciiAlphanumeric, letter]
  have opened : readAll ⟨found, .raw element .inside⟩ ['<', c] =
      ⟨found, .raw element .inside⟩ := by
    have bracket : c ≠ '<' := ne_of_plain first (by decide)
    simp [next, Spot.move, RawMark.move, goesOn_of_plain first, bracket]
  have written : (Piece.startTag (c :: rest) attributes).write =
      ['<', c] ++ (startText rest attributes ++ ['>']) := by
    simp [write_startTag, startText]
  rw [written, readAll_append, opened]
  apply readAll_raw
  have behind : '<' ∉ startText rest attributes := fun member =>
    inside (List.mem_cons_of_mem c member)
  simpa using behind

theorem readAll_single_endTag {name : Text} (named : IsPlainName name) :
    readAll ⟨found, .quoted tag .single⟩ (Piece.endTag name).write =
      ⟨found, .quoted tag .single⟩ := by
  have inside : '\x27' ∉ name := not_mem_of_plain (by decide) named
  apply readAll_quoted
  simpa [Piece.write, QuoteMark.char] using inside

theorem readAll_comment_endTag {mark : CommentMark} {name : Text} (named : IsPlainName name) :
    readAll ⟨found, .comment mark⟩ (Piece.endTag name).write = ⟨found, .comment .inside⟩ := by
  have inside : '>' ∉ startText name [] :=
    not_mem_startText named (List.forall_mem_nil _) (by decide)
  obtain ⟨front, last, split, hyphen, exclamation⟩ := exists_startText_eq named
    (List.forall_mem_nil _)
  rw [split, List.mem_append, List.mem_singleton, not_or] at inside
  have written : (Piece.endTag name).write = '<' :: '/' :: front ++ [last, '>'] := by
    rw [startText, List.flatMap_nil, List.append_nil] at split
    simp [Piece.write, split]
  rw [written]
  exact readAll_comment_end (by simp [inside.1]) (Ne.symm inside.2) hyphen exclamation

theorem readAll_raw_endTag {element : RawElement} {name : Text} (named : IsPlainName name)
    (other : element.isClosedBy name = false) :
    readAll ⟨found, .raw element .inside⟩ (Piece.endTag name).write =
      ⟨found, .raw element .inside⟩ := by
  obtain ⟨c, rest, rfl, letter, plain⟩ := named.exists_cons
  have opened : readAll ⟨found, .raw element .inside⟩ ['<', '/', c] =
      ⟨found, .raw element (.name [c])⟩ := by
    simp [next, Spot.move, RawMark.move, letter]
  have written : (Piece.endTag (c :: rest)).write = ['<', '/', c] ++ (rest ++ ['>']) := by
    simp [Piece.write]
  rw [written, readAll_append, opened, readAll_raw_name plain (by simpa using other)]

end Scan

end DocSite.Html
