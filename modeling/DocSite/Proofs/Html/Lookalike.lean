import Mathlib.Data.List.Forall2
import DocSite.Proofs.Html.Unseen

/-!
# Markup that looks the same

Pieces are alike if they have the same names. Two readers that are in a text, or lost in the same
place, find the same tags in pieces that are alike. After markup of any kind, a tag with a plain
value in quotation marks brings a reader there, wherever it has been.
-/

namespace DocSite.Html

/-! ## Pieces that are alike -/

/-- Two pieces with the same names, in elements whose content is markup. -/
inductive Piece.Alike : Piece → Piece → Prop
  | startTag {name : Text} {attributes others : List Attribute} (named : IsPlainName name)
      (keeps : RawElement.of? name = none)
      (same : attributes.map Attribute.name = others.map Attribute.name)
      (plain : ∀ attr ∈ attributes, attr.IsPlain) (otherPlain : ∀ attr ∈ others, attr.IsPlain) :
      Alike (startTag name attributes) (startTag name others)
  | endTag {name : Text} (named : IsPlainName name) (keeps : RawElement.of? name = none) :
      Alike (endTag name) (endTag name)
  | text (content other : Text) : Alike (text content) (text other)

/-- A tag with plain names in which markup may stand, or a text. -/
def Piece.IsPlain : Piece → Prop
  | startTag name attributes =>
    IsPlainName name ∧ RawElement.of? name = none ∧ ∀ attr ∈ attributes, attr.IsPlain
  | endTag name => IsPlainName name ∧ RawElement.of? name = none
  | text _ => True
  | markup _ => False

instance : (piece : Piece) → Decidable piece.IsPlain
  | .startTag _ _ => inferInstanceAs (Decidable (_ ∧ _ ∧ _))
  | .endTag _ => inferInstanceAs (Decidable (_ ∧ _))
  | .text _ => .isTrue trivial
  | .markup _ => .isFalse id

theorem Piece.IsPlain.alike {piece : Piece} (plain : piece.IsPlain) : piece.Alike piece := by
  cases piece with
  | startTag name attributes =>
      obtain ⟨named, keeps, plain⟩ := plain
      exact .startTag named keeps rfl plain plain
  | endTag name => exact .endTag plain.1 plain.2
  | text content => exact .text content content
  | markup written => exact plain.elim

/-- The tag that is seen in a piece. -/
def Piece.tag? : Piece → Option TagForm
  | startTag name attributes => some ⟨false, name, attributes.map Attribute.name⟩
  | endTag name => some ⟨true, name, []⟩
  | text _ | markup _ => none

/-- A reader in a text sees the tag in a plain piece, and is in a text again. -/
theorem Scan.readAll_write {piece : Piece} (plain : piece.IsPlain) (found : List TagForm) :
    readAll ⟨found, .text⟩ piece.write = ⟨found ++ piece.tag?.toList, .text⟩ := by
  cases piece with
  | startTag name attributes =>
      obtain ⟨named, keeps, plain⟩ := plain
      rw [readAll_startTag named plain, keeps]
      rfl
  | endTag name => exact readAll_endTag plain.1
  | text content =>
      rw [Piece.tag?, Option.toList_none, List.append_nil]
      exact readAll_text (not_mem_escape (by decide) content)
  | markup written => exact plain.elim

theorem Scan.readAll_writeAll {pieces : List Piece} (plain : ∀ piece ∈ pieces, piece.IsPlain)
    (found : List TagForm) :
    readAll ⟨found, .text⟩ (Piece.writeAll pieces) =
      ⟨found ++ pieces.filterMap Piece.tag?, .text⟩ := by
  induction pieces generalizing found with
  | nil => simp [Piece.writeAll]
  | cons piece pieces induction =>
      obtain ⟨first, plain⟩ := List.forall_mem_cons.mp plain
      have rest := induction plain (found ++ piece.tag?.toList)
      rw [Piece.writeAll, List.flatMap_cons, readAll_append, readAll_write first,
        ← Piece.writeAll, rest, List.filterMap_cons]
      cases piece.tag? <;> simp

example :
    skeleton "<A href='>' title>1 < 2<!-- <b> --></a ><title><i></TITLE><br/>" =
      [⟨false, "A", ["href".toList, "title".toList]⟩, ⟨true, "a", []⟩, ⟨false, "title", []⟩,
        ⟨true, "TITLE", []⟩, ⟨false, "br", []⟩] := by
  decide +kernel

namespace Scan

/-- Two readers have found the same and are in a text, or lost in the same place. -/
inductive Near : Scan → Scan → Prop
  | text (found : List TagForm) : Near ⟨found, .text⟩ ⟨found, .text⟩
  | quoted (found : List TagForm) (tag : TagForm) :
      Near ⟨found, .quoted tag .single⟩ ⟨found, .quoted tag .single⟩
  | comment (found : List TagForm) (mark other : CommentMark) :
      Near ⟨found, .comment mark⟩ ⟨found, .comment other⟩
  | raw (found : List TagForm) (element : RawElement) :
      Near ⟨found, .raw element .inside⟩ ⟨found, .raw element .inside⟩

namespace Near

variable {scan other : Scan}

theorem found_eq (near : Near scan other) : scan.found = other.found := by
  cases near <;> rfl

/-- What has been read of the end of a comment is of no use behind a line break. -/
theorem newLine (near : Near scan other) : scan.next '\n' = other.next '\n' := by
  cases near with
  | comment found mark other => cases mark <;> cases other <;> rfl
  | _ => rfl

theorem text_write (near : Near scan other) (content shown : Text) :
    Near (scan.readAll (escape content)) (other.readAll (escape shown)) := by
  have plain (text : Text) : '<' ∉ escape text := not_mem_escape (by decide) text
  have inside (text : Text) : '>' ∉ escape text := not_mem_escape (by decide) text
  have unquoted (text : Text) : QuoteMark.single.char ∉ escape text :=
    not_mem_escape (by decide) text
  cases near with
  | text found =>
      rw [readAll_text (plain _), readAll_text (plain _)]
      exact .text found
  | quoted found tag =>
      rw [readAll_quoted (unquoted _), readAll_quoted (unquoted _)]
      exact .quoted found tag
  | comment found mark other =>
      obtain ⟨after, read⟩ : ∃ after, readAll ⟨found, .comment mark⟩ (escape content) =
          ⟨found, .comment after⟩ := readAll_comment (inside content)
      obtain ⟨last, readOther⟩ : ∃ last, readAll ⟨found, .comment other⟩ (escape shown) =
          ⟨found, .comment last⟩ := readAll_comment (inside shown)
      rw [read, readOther]
      exact .comment found after last
  | raw found element =>
      rw [readAll_raw (plain _), readAll_raw (plain _)]
      exact .raw found element

/-- Readers that are near each other stay so at pieces that are alike. -/
theorem write (near : Near scan other) {piece like : Piece} (alike : piece.Alike like) :
    Near (scan.readAll piece.write) (other.readAll like.write) := by
  cases near with
  | text found =>
      cases alike with
      | text content shown => exact (Near.text found).text_write content shown
      | startTag named keeps same plain otherPlain =>
          rw [readAll_startTag named plain, readAll_startTag named otherPlain, same, keeps]
          exact .text _
      | endTag named keeps =>
          rw [readAll_endTag named]
          exact .text _
  | quoted found tag =>
      cases alike with
      | text content shown => exact (Near.quoted found tag).text_write content shown
      | startTag named keeps same plain otherPlain =>
          rw [readAll_single_startTag named plain, readAll_single_startTag named otherPlain]
          exact .quoted found tag
      | endTag named keeps =>
          rw [readAll_single_endTag named]
          exact .quoted found tag
  | comment found mark other =>
      cases alike with
      | text content shown => exact (Near.comment found mark other).text_write content shown
      | startTag named keeps same plain otherPlain =>
          rw [readAll_comment_startTag named plain, readAll_comment_startTag named otherPlain]
          exact .comment found .inside .inside
      | endTag named keeps =>
          rw [readAll_comment_endTag named, readAll_comment_endTag named]
          exact .comment found .inside .inside
  | raw found element =>
      cases alike with
      | text content shown => exact (Near.raw found element).text_write content shown
      | startTag named keeps same plain otherPlain =>
          rw [readAll_raw_startTag named plain, readAll_raw_startTag named otherPlain]
          exact .raw found element
      | endTag named keeps =>
          rw [readAll_raw_endTag named (RawElement.isClosedBy_eq_false keeps element)]
          exact .raw found element

theorem writeAll (near : Near scan other) {pieces like : List Piece}
    (alike : List.Forall₂ Piece.Alike pieces like) :
    Near (scan.readAll (Piece.writeAll pieces)) (other.readAll (Piece.writeAll like)) := by
  induction alike generalizing scan other with
  | nil => exact near
  | cons first rest induction =>
      rw [Piece.writeAll, Piece.writeAll, List.flatMap_cons, List.flatMap_cons, readAll_append,
        readAll_append]
      exact induction (near.write first)

end Near

/-! ## Behind markup of any kind -/

/-- A reader is in a text, or lost, or in a value that a quotation mark ends. -/
inductive Loose : Scan → Prop
  | near {scan : Scan} (near : Near scan scan) : Loose scan
  | quoted (found : List TagForm) (tag : TagForm) : Loose ⟨found, .quoted tag .double⟩

theorem near_behind (found : List TagForm) (tag : TagForm) :
    Near ⟨found, tag.behind⟩ ⟨found, tag.behind⟩ := by
  rw [TagForm.behind]
  split
  · exact .text found
  · cases RawElement.of? tag.name with
    | none => exact .text found
    | some element => exact .raw found element

/-- A closing bracket ends whatever ends at all without a quotation mark. -/
theorem loose_next (scan : Scan) : Loose (scan.next '>') := by
  obtain ⟨found, spot⟩ := scan
  cases spot with
  | text => exact .near (.text found)
  | bracket => exact .near (.text found)
  | slash => exact .near (.text found)
  | name tag => exact .near (near_behind _ tag)
  | between tag => exact .near (near_behind _ tag)
  | key tag read => exact .near (near_behind _ _)
  | named tag => exact .near (near_behind _ tag)
  | assigned tag => exact .near (near_behind _ tag)
  | quoted tag quote =>
      cases quote with
      | single => exact .near (.quoted found tag)
      | double => exact .quoted found tag
  | bare tag => exact .near (near_behind _ tag)
  | exclamation => exact .near (.text found)
  | hyphen => exact .near (.text found)
  | declaration => exact .near (.text found)
  | comment mark =>
      cases mark <;>
        first | exact .near (.text found) | exact .near (.comment found .inside .inside)
  | raw element mark =>
      cases mark with
      | name read =>
          have letter : Text.isAsciiLetter '>' = false := by decide
          cases closes : element.isClosedBy read with
          | true =>
              simp only [next, Spot.move, RawMark.move, letter, closes, moveBetween]
              exact .near (near_behind _ _)
          | false =>
              simp only [next, Spot.move, RawMark.move, letter, closes]
              exact .near (.raw found element)
      | _ => exact .near (.raw found element)

theorem Loose.newLine {scan : Scan} (loose : Loose scan) : Loose (scan.next '\n') := by
  cases loose with
  | quoted found tag => exact .quoted found tag
  | near near =>
      cases near with
      | text found => exact .near (.text found)
      | quoted found tag => exact .near (.quoted found tag)
      | comment found mark => cases mark <;> exact .near (.comment found .inside .inside)
      | raw found element => exact .near (.raw found element)

section Settling

variable {name key value : Text} (named : IsPlainName name) (keyed : IsPlainName key)
  (plain : IsPlainName (escape value))
include named keyed plain

/-- A tag with a quoted value ends a value with such quotes that has been open: there the value of
the tag is read as the name of an attribute. -/
theorem readAll_double_startTag (found : List TagForm) (tag : TagForm) :
    ∃ last : TagForm, readAll ⟨found, .quoted tag .double⟩
        (Piece.startTag name [.of key value]).write = ⟨found ++ [last], last.behind⟩ := by
  obtain ⟨c, rest, split, letter, others⟩ := plain.exists_cons
  have first : Text.isAsciiAlphanumeric c = true := by simp [Text.isAsciiAlphanumeric, letter]
  have unquoted : QuoteMark.double.char ∉ '<' :: name ++ ' ' :: key ++ ['='] := by
    have inName : '\x22' ∉ name := fun member =>
      ne_of_plain (named.plain _ member) (by decide) rfl
    have inKey : '\x22' ∉ key := fun member => ne_of_plain (keyed.plain _ member) (by decide) rfl
    simp [QuoteMark.char, inName, inKey]
  have opened : readAll ⟨found, .between tag⟩ [c] = ⟨found, .key tag [c]⟩ := by
    simp [next, Spot.move, moveBetween, goesOn_of_plain first]
  have written : (Piece.startTag name [.of key value]).write =
      ('<' :: name ++ ' ' :: key ++ ['=']) ++ (['\x22'] ++ ([c] ++ (rest ++ ['\x22', '>']))) := by
    simp [Piece.write, Attribute.of, Attribute.write, split]
  refine ⟨tag.withAttribute (c :: rest ++ ['\x22']), ?_⟩
  rw [written, readAll_append, readAll_quoted unquoted, readAll_append]
  have closed : readAll ⟨found, .quoted tag .double⟩ ['\x22'] = ⟨found, .between tag⟩ := rfl
  rw [closed, readAll_append, opened, readAll_append, readAll_key others]
  rfl

/-- A tag with a plain value brings a reader into a text, unless it is lost. -/
theorem Loose.near_startTag (keeps : RawElement.of? name = none) {scan : Scan}
    (loose : Loose scan) :
    Near (scan.readAll (Piece.startTag name [.of key value]).write)
      (scan.readAll (Piece.startTag name [.of key value]).write) := by
  cases loose with
  | near near =>
      have attributes : ∀ attr ∈ [Attribute.of key value], attr.IsPlain :=
        List.forall_mem_singleton.mpr ⟨keyed, rfl⟩
      exact near.write (.startTag named keeps rfl attributes attributes)
  | quoted found tag =>
      obtain ⟨last, read⟩ := readAll_double_startTag named keyed plain found tag
      rw [read]
      exact near_behind _ last

/-- Wherever a reader has been, it is in a text, or lost, behind two tags on two lines of which the
second has a plain value. -/
theorem near_behind_tags (keeps : RawElement.of? name = none) (scan : Scan)
    {piece : Piece} (ends : piece.write.getLast? = some '>') :
    Near (scan.readAll (Piece.writeAll [piece, .text ['\n'], .startTag name [.of key value]]))
      (scan.readAll (Piece.writeAll [piece, .text ['\n'], .startTag name [.of key value]])) := by
  obtain ⟨front, split⟩ := List.getLast?_eq_some_iff.mp ends
  have written : Piece.writeAll [piece, .text ['\n'], .startTag name [.of key value]] =
      front ++ '>' :: '\n' :: (Piece.startTag name [.of key value]).write := by
    have newLine : (Piece.text ['\n']).write = ['\n'] := rfl
    simp [Piece.writeAll, split, newLine]
  rw [written, readAll_append, readAll_cons, readAll_cons]
  exact (loose_next _).newLine.near_startTag named keyed plain keeps

end Settling

/-! ## Titles -/

/-- Nothing is seen in a title. -/
theorem readAll_title (found : List TagForm) (content : Text) :
    readAll ⟨found, .text⟩
        (Piece.writeAll [.startTag "title" [], .text content, .endTag "title"]) =
      ⟨found ++ [⟨false, "title", []⟩, ⟨true, "title", []⟩], .text⟩ := by
  have opened : readAll ⟨found, .text⟩ (Piece.startTag "title" []).write =
      ⟨found ++ [⟨false, "title", []⟩], .raw .title .inside⟩ :=
    readAll_startTag (by decide) (List.forall_mem_nil _)
  have closed (before : List TagForm) :
      readAll ⟨before, .raw .title .inside⟩ (Piece.endTag "title").write =
        ⟨before ++ [⟨true, "title", []⟩], .text⟩ := rfl
  have written : Piece.writeAll [.startTag "title" [], .text content, .endTag "title"] =
      (Piece.startTag "title" []).write ++ (escape content ++ (Piece.endTag "title").write) := by
    simp only [Piece.writeAll, List.flatMap_cons, List.flatMap_nil, List.append_nil]
    rfl
  rw [written, readAll_append, opened, readAll_append, readAll_raw (not_mem_escape (by decide) _),
    closed, List.append_assoc]
  rfl

end Scan

end DocSite.Html
