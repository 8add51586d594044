import DocSite.Html.Writer
import DocSite.Proofs.Html.Vocabulary

/-!
# What the writer writes

The writer uses the names of a fixed vocabulary. What comes from the document stands in texts and
in the values of attributes, where it is escaped; so whatever events a writer is given, and whatever
it remembers, it writes markup, as long as the markup among the events is such.
-/

namespace DocSite

namespace Html

/-! ## Vocabularies -/

namespace Vocabulary

/-- The words that a writer uses outside the tags of headings. -/
def body : Vocabulary where
  elements :=
    (["p", "blockquote", "div", "pre", "code", "ol", "ul", "li", "dl", "dt", "dd", "table",
      "thead", "tbody", "tr", "th", "td", "em", "strong", "del", "sup", "sub", "a", "img", "br",
      "hr", "input"] : List String).map String.toList
  attributes :=
    (["id", "class", "start", "style", "href", "title", "src", "alt", "type", "disabled",
      "checked"] : List String).map String.toList
  references := escapes

/-- The words that a writer uses by itself. -/
def writer : Vocabulary where
  elements := (["h1", "h2", "h3", "h4", "h5", "h6"] : List String).map String.toList ++ body.elements
  attributes := body.attributes
  references := body.references

/-- The words of the markup that stages insert. -/
def inserted : Vocabulary where
  elements := ["a", "pre", "code", "span"]
  attributes := ["href", "class"]
  references := escapes ++ [("&#39;" : Text)]

/-- The words of a whole document. -/
def document : Vocabulary where
  elements := writer.elements ++ [("span" : Text)]
  attributes := writer.attributes
  references := writer.references ++ [("&#39;" : Text)]

theorem body_le_writer : body ≤ writer :=
  ⟨List.subset_append_right _ _, List.Subset.refl _, List.Subset.refl _⟩

theorem writer_le_document : writer ≤ document := by
  refine ⟨?_, ?_, ?_⟩ <;> decide

theorem inserted_le_document : inserted ≤ document := by
  refine ⟨?_, ?_, ?_⟩ <;> decide

end Vocabulary

end Html

/-- The event writes no markup of its own, or markup in the vocabulary. -/
def Event.MarkupWithin (words : Html.Vocabulary) : Event → Prop
  | .html markup | .inlineHtml markup => words.IsMarkup markup
  | _ => True

/-- Whether an event is the start or the end of a heading. -/
def Event.isHeadingTag : Event → Bool
  | .start (.heading _ _) => true
  | .finish (.heading _) => true
  | _ => false

namespace Html

/-! ## The writer -/

namespace Writer

theorem inlineMarkup_within {words : Vocabulary} (writer : Writer) {pieces : List Piece}
    (within : ∀ piece ∈ pieces, piece.Within words) :
    ∀ piece ∈ writer.inlineMarkup pieces, piece.Within words := by
  unfold inlineMarkup
  split
  · simp
  · exact within

theorem attribute_known {name : Text} (known : name ∈ Vocabulary.body.attributes)
    (value : Text) : (Attribute.of name value).name ∈ Vocabulary.body.attributes :=
  known

theorem titleAttribute_known (title : Text) :
    ∀ attr ∈ titleAttribute title, attr.name ∈ Vocabulary.body.attributes := by
  unfold titleAttribute
  split
  · simp
  · simp [Attribute.of, Vocabulary.body]

theorem cellStyle_known (cursor : TableCursor) :
    ∀ attr ∈ cursor.cellStyle, attr.name ∈ Vocabulary.body.attributes := by
  unfold TableCursor.cellStyle
  split <;> simp [Attribute.of, Vocabulary.body]

theorem cellName_known (cursor : TableCursor) :
    cursor.cellName ∈ Vocabulary.body.elements := by
  unfold TableCursor.cellName
  split <;> decide

theorem alertStart_within (alert : Alert) :
    ∀ piece ∈ alertStart alert, piece.Within .body := by
  simp [alertStart, Piece.Within, Attribute.of, Vocabulary.body]

theorem startTag_within (writer : Writer) {tag : Tag}
    (other : ∀ level id, tag ≠ .heading level id) :
    ∀ piece ∈ (writer.startTag tag).2, piece.Within .body := by
  have inlineTag : ∀ {name : Text}, name ∈ Vocabulary.body.elements →
      ∀ piece ∈ writer.inlineMarkup [.startTag name []], piece.Within .body := by
    intro name known
    apply inlineMarkup_within
    simp [Piece.Within, known]
  cases tag with
  | heading level id => exact (other level id rfl).elim
  | blockQuote alert =>
      cases alert with
      | none => simp [startTag, Piece.Within, Vocabulary.body]
      | some alert => exact alertStart_within alert
  | list start =>
      cases start with
      | none => simp [startTag, Piece.Within, Vocabulary.body]
      | some start =>
          simp only [startTag, List.mem_singleton, forall_eq]
          refine ⟨by decide, ?_⟩
          split <;> simp [Attribute.of, Vocabulary.body]
  | tableCell =>
      simp only [startTag, List.mem_singleton, forall_eq]
      exact ⟨cellName_known _, cellStyle_known _⟩
  | emphasis => exact inlineTag (by decide)
  | strong => exact inlineTag (by decide)
  | strikethrough => exact inlineTag (by decide)
  | superscript => exact inlineTag (by decide)
  | subscript => exact inlineTag (by decide)
  | link destination title =>
      apply inlineMarkup_within
      simp only [List.mem_singleton, forall_eq]
      refine ⟨by decide, ?_⟩
      simp only [List.mem_cons, forall_eq_or_imp]
      exact ⟨attribute_known (by decide) _, titleAttribute_known title⟩
  | image destination title =>
      simp only [startTag]
      split <;> simp
  | _ => simp [startTag, Piece.Within, Vocabulary.body]

theorem codePieces_within (code : OpenCode) :
    ∀ piece ∈ codePieces code, piece.Within .body := by
  obtain ⟨language, text⟩ := code
  cases language <;> simp [codePieces, Piece.Within, Attribute.of, Vocabulary.body]

theorem imagePiece_within (source alt title : Text) :
    (imagePiece source alt title).Within .body := by
  refine ⟨by decide, ?_⟩
  simp only [List.mem_append, List.mem_cons, List.not_mem_nil, or_false, or_imp, forall_and,
    forall_eq]
  exact ⟨⟨attribute_known (by decide) _, attribute_known (by decide) _⟩,
    titleAttribute_known title⟩

theorem endTag_within (writer : Writer) {tag : TagEnd} (other : ∀ level, tag ≠ .heading level) :
    ∀ piece ∈ (writer.endTag tag).2, piece.Within .body := by
  have inlineTag : ∀ {name : Text}, name ∈ Vocabulary.body.elements →
      ∀ piece ∈ writer.inlineMarkup [.endTag name], piece.Within .body := by
    intro name known
    apply inlineMarkup_within
    simp [Piece.Within, known]
  cases tag with
  | heading level => exact (other level rfl).elim
  | blockQuote alert =>
      simp only [endTag]
      split <;> simp [Piece.Within, Vocabulary.body]
  | codeBlock =>
      simp only [endTag]
      split
      · exact codePieces_within _
      · simp
  | list ordered => cases ordered <;> simp [endTag, Piece.Within, Vocabulary.body]
  | tableCell => simp [endTag, Piece.Within, cellName_known]
  | emphasis => exact inlineTag (by decide)
  | strong => exact inlineTag (by decide)
  | strikethrough => exact inlineTag (by decide)
  | superscript => exact inlineTag (by decide)
  | subscript => exact inlineTag (by decide)
  | link => exact inlineTag (by decide)
  | image =>
      simp only [endTag]
      split
      · simp
      · split
        · simpa using imagePiece_within _ _ _
        · simp
  | _ => simp [endTag, Piece.Within, Vocabulary.body]

/-- What one event writes is within the vocabulary, if it is no tag of a heading and if, where the
event is markup itself, that is. -/
theorem step_within {words : Vocabulary} (part : Vocabulary.body ≤ words) (writer : Writer)
    {event : Event} (inserted : event.MarkupWithin words) (other : event.isHeadingTag = false) :
    ∀ piece ∈ (writer.step event).2, piece.Within words := by
  have own : ∀ {pieces : List Piece}, (∀ piece ∈ pieces, piece.Within .body) →
      ∀ piece ∈ pieces, piece.Within words :=
    fun within piece member => (within piece member).mono part
  cases event with
  | start tag =>
      apply own
      apply writer.startTag_within
      rintro level id rfl
      simp [Event.isHeadingTag] at other
  | finish tag =>
      apply own
      apply writer.endTag_within
      rintro level rfl
      simp [Event.isHeadingTag] at other
  | text content =>
      simp only [step]
      split
      · simp
      · split <;> simp [Piece.Within]
  | code content =>
      apply own
      simp only [step]
      split <;> simp [Piece.Within, Vocabulary.body]
  | html markup =>
      have isMarkup : words.IsMarkup markup := inserted
      simpa [step, Piece.Within] using isMarkup
  | inlineHtml markup =>
      have isMarkup : words.IsMarkup markup := inserted
      simpa [step, Piece.Within] using isMarkup
  | softBreak =>
      simp only [step]
      split <;> simp [Piece.Within]
  | taskMarker checked =>
      apply own
      cases checked <;>
        simp [step, taskPieces, Piece.Within, Attribute.of, Attribute.flag, Vocabulary.body]
  | hardBreak => exact own (by simp [step, Piece.Within, Vocabulary.body])
  | rule => exact own (by simp [step, Piece.Within, Vocabulary.body])
  | inlineMath content => simp [step]
  | displayMath content => simp [step]
  | footnoteReference label => simp [step]

/-- The tags of headings are within the writer's vocabulary. -/
theorem step_heading_within (writer : Writer) {event : Event} (heading : event.isHeadingTag) :
    ∀ piece ∈ (writer.step event).2, piece.Within .writer := by
  have named : ∀ level, headingName level ∈ Vocabulary.writer.elements := by
    intro level
    cases level <;> decide
  unfold Event.isHeadingTag at heading
  split at heading
  · rename_i level id
    simp only [step, startTag, List.mem_singleton, forall_eq]
    refine ⟨named level, ?_⟩
    cases id <;> simp [Attribute.of, Vocabulary.writer, Vocabulary.body]
  · rename_i level
    have within : (Piece.endTag (headingName level)).Within .writer := named level
    simpa [step, endTag] using within
  · simp at heading

/-! ## Runs of the writer -/

theorem run_within {words : Vocabulary} (writer : Writer) {events : List Event}
    (within : ∀ event ∈ events, ∀ writer : Writer,
      ∀ piece ∈ (writer.step event).2, piece.Within words) :
    ∀ piece ∈ (writer.run events).2, piece.Within words := by
  induction events generalizing writer with
  | nil => simp [run]
  | cons event events induction =>
      simp only [List.mem_cons, forall_eq_or_imp] at within
      intro piece member
      rcases List.mem_append.mp member with member | member
      · exact within.1 writer piece member
      · exact induction _ within.2 piece member

theorem run_within_of_markupWithin {words : Vocabulary} (part : Vocabulary.writer ≤ words)
    (writer : Writer) {events : List Event}
    (inserted : ∀ event ∈ events, event.MarkupWithin words) :
    ∀ piece ∈ (writer.run events).2, piece.Within words := by
  have partBody : Vocabulary.body ≤ words := Vocabulary.le_trans Vocabulary.body_le_writer part
  apply run_within
  intro event member writer piece written
  cases heading : event.isHeadingTag with
  | false => exact writer.step_within partBody (inserted event member) heading piece written
  | true => exact (writer.step_heading_within heading piece written).mono part

theorem render_isMarkup {words : Vocabulary} (part : Vocabulary.writer ≤ words) (writer : Writer)
    {events : List Event} (inserted : ∀ event ∈ events, event.MarkupWithin words) :
    words.IsMarkup (writer.render events).2 :=
  Piece.isMarkup_writeAll part.2.2 (writer.run_within_of_markupWithin part inserted)

/-- Without headings, a document is written without their names. -/
theorem render_isMarkup_of_no_heading {words : Vocabulary} (part : Vocabulary.body ≤ words)
    (writer : Writer) {events : List Event}
    (inserted : ∀ event ∈ events, event.MarkupWithin words)
    (other : ∀ event ∈ events, event.isHeadingTag = false) :
    words.IsMarkup (writer.render events).2 := by
  apply Piece.isMarkup_writeAll part.2.2
  apply run_within
  intro event member writer
  exact writer.step_within part (inserted event member) (other event member)

theorem run_cons (writer : Writer) (event : Event) (rest : List Event) :
    writer.run (event :: rest) =
      (((writer.step event).1.run rest).1,
        (writer.step event).2 ++ ((writer.step event).1.run rest).2) :=
  rfl

theorem run_append (writer : Writer) (left right : List Event) :
    writer.run (left ++ right) =
      (((writer.run left).1.run right).1,
        (writer.run left).2 ++ ((writer.run left).1.run right).2) := by
  induction left generalizing writer with
  | nil => rfl
  | cons event left induction => simp [run, induction]

theorem render_append (writer : Writer) (left right : List Event) :
    (writer.render (left ++ right)).2 =
      (writer.render left).2 ++ ((writer.render left).1.render right).2 := by
  simp [render, run_append, Piece.writeAll]

end Writer

end Html

end DocSite
