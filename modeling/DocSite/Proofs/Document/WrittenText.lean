import DocSite.Proofs.Document.Injection
import DocSite.Proofs.Html.Frames
import DocSite.Proofs.Html.PlainText

/-!
# The text that is written

What is seen of a document are its texts outside of images. The writer says just that as the events
come, except for code, which it says when the block ends. Links leave no trace in what it says.
-/

namespace DocSite

open Html (Piece Vocabulary Writer plainText)

/-! ## What is seen of a document -/

/-- The text that is seen of an event. Of what an image holds nothing is seen. -/
def Event.visibleText (inImage : Bool) : Event → Text
  | .text content | .code content => if inImage then [] else content
  | .softBreak => if inImage then [] else ['\n']
  | .start (.blockQuote (some alert)) => (Html.alertLabel alert).2
  | .taskMarker _ => [' ']
  | _ => []

/-- How many images are open behind an event if some are open before it. -/
def Event.imagesBehind (opened : Nat) : Event → Nat
  | .start (.image _ _) => opened + 1
  | .finish .image => opened - 1
  | _ => opened

namespace Document

/-- The text that is seen of events behind which so many images are open. -/
def visibleText : (opened : Nat) → List Event → Text
  | _, [] => []
  | opened, event :: rest =>
    event.visibleText (opened != 0) ++ visibleText (event.imagesBehind opened) rest

/-- How many images are open behind events. -/
def imagesBehind (opened : Nat) (events : List Event) : Nat :=
  events.foldl Event.imagesBehind opened

variable {left right : List Event}

theorem visibleText_append (opened : Nat) (left right : List Event) :
    visibleText opened (left ++ right) =
      visibleText opened left ++ visibleText (imagesBehind opened left) right := by
  induction left generalizing opened with
  | nil => rfl
  | cons event left induction =>
      rw [List.cons_append, visibleText, visibleText, induction, List.append_assoc]
      rfl

end Document

/-! ## What the writer says -/

namespace Html

/-- What some pieces say. -/
def said (pieces : List Piece) : Text :=
  pieces.flatMap Piece.plainText

@[simp] theorem said_append (left right : List Piece) :
    said (left ++ right) = said left ++ said right :=
  List.flatMap_append

namespace Writer

open Document (imagesBehind isCodeStart isLink linkContent visibleText)

variable {writer : Writer} {event : Event} {events : List Event}

theorem code_step (idle : writer.code = none) (other : isCodeStart event = false) :
    (writer.step event).1.code = none := by
  cases event with
  | start tag =>
      refine (code_startTag ?_).trans idle
      rintro kind rfl
      simp [isCodeStart] at other
  | finish tag =>
      cases tag with
      | blockQuote alert =>
          simp only [step, endTag]
          split <;> exact idle
      | codeBlock => simp [step, endTag, idle]
      | image =>
          simp only [step, endTag]
          split <;> exact idle
      | _ => exact idle
  | text content =>
      simp only [step, idle]
      split
      · exact idle
      · exact idle
  | code content =>
      simp only [step]
      split <;> exact idle
  | softBreak =>
      simp only [step]
      split <;> exact idle
  | _ => exact idle

theorem code_run (idle : writer.code = none)
    (other : ∀ event ∈ events, isCodeStart event = false) : (writer.run events).1.code = none := by
  induction events generalizing writer with
  | nil => exact idle
  | cons event events induction =>
      simp only [List.mem_cons, forall_eq_or_imp] at other
      exact induction (code_step idle other.1) other.2

theorem imageDepth_step (writer : Writer) (event : Event) :
    (writer.step event).1.imageDepth = event.imagesBehind writer.imageDepth := by
  cases event with
  | start tag =>
      cases tag with
      | image destination title => exact (writer.startTag_image destination title).1
      | list start => cases start <;> rfl
      | _ => rfl
  | finish tag =>
      cases tag with
      | blockQuote alert =>
          simp only [step, endTag]
          split <;> rfl
      | codeBlock =>
          simp only [step, endTag]
          split <;> rfl
      | image =>
          simp only [step, endTag]
          split <;> rfl
      | _ => rfl
  | text content =>
      simp only [step]
      split
      · rfl
      · split <;> rfl
  | code content =>
      simp only [step]
      split <;> rfl
  | softBreak =>
      simp only [step]
      split <;> rfl
  | _ => rfl

theorem imageDepth_run (writer : Writer) (events : List Event) :
    (writer.run events).1.imageDepth = imagesBehind writer.imageDepth events := by
  induction events generalizing writer with
  | nil => rfl
  | cons event events induction =>
      rw [run_cons, induction, imageDepth_step]
      rfl

private theorem said_inlineMarkup (writer : Writer) {piece : Piece}
    (silent : piece.plainText = []) : said (writer.inlineMarkup [piece]) = [] := by
  unfold inlineMarkup
  split
  · rfl
  · simp [said, silent]

theorem said_step (idle : writer.code = none) (other : isCodeStart event = false)
    (free : event.isMarkup = false) :
    said (writer.step event).2 = event.visibleText writer.inImage := by
  cases event with
  | start tag =>
      cases tag with
      | codeBlock kind => simp [isCodeStart] at other
      | blockQuote alert =>
          cases alert with
          | none => rfl
          | some alert => exact List.append_nil _
      | list start => cases start <;> rfl
      | emphasis | strong | strikethrough | superscript | subscript | link _ _ =>
          exact writer.said_inlineMarkup rfl
      | image destination title =>
          simp only [step, startTag]
          split <;> rfl
      | _ => rfl
  | finish tag =>
      cases tag with
      | blockQuote alert =>
          simp only [step, endTag]
          split <;> rfl
      | codeBlock => simp [step, endTag, idle, said, Event.visibleText]
      | emphasis | strong | strikethrough | superscript | subscript | link =>
          exact writer.said_inlineMarkup rfl
      | image =>
          simp only [step, endTag]
          split
          · rfl
          · split <;> rfl
      | _ => rfl
  | html markup => simp [Event.isMarkup] at free
  | inlineHtml markup => simp [Event.isMarkup] at free
  | text content =>
      simp only [step, idle, Event.visibleText]
      split
      · rfl
      · exact List.append_nil content
  | code content =>
      simp only [step, Event.visibleText]
      split
      · rfl
      · exact List.append_nil content
  | softBreak =>
      simp only [step, Event.visibleText]
      split <;> rfl
  | _ => rfl

/-- Outside of code blocks, what is seen of events is said as they come. -/
theorem said_run (idle : writer.code = none)
    (other : ∀ event ∈ events, isCodeStart event = false)
    (free : ∀ event ∈ events, event.isMarkup = false) :
    said (writer.run events).2 = visibleText writer.imageDepth events := by
  induction events generalizing writer with
  | nil => rfl
  | cons event events induction =>
      simp only [List.mem_cons, forall_eq_or_imp] at other free
      have first := said_step idle other.1 free.1
      have rest := induction (code_step idle other.1) other.2 free.2
      rw [imageDepth_step] at rest
      rw [run_cons, said_append, first, rest]
      rfl

/-! ## Parts that stages change -/

theorem said_codePieces (code : OpenCode) : said (codePieces code) = code.text := by
  simp [codePieces, said, Piece.plainText]

/-- Links leave no trace but their tags. -/
theorem run_filter_links (writer : Writer) (inner : List Event) :
    (writer.run (inner.filter fun event => !isLink event)).1 = (writer.run inner).1 ∧
      said (writer.run (inner.filter fun event => !isLink event)).2 =
        said (writer.run inner).2 := by
  induction inner generalizing writer with
  | nil => exact ⟨rfl, rfl⟩
  | cons event inner induction =>
      cases link : isLink event with
      | false =>
          obtain ⟨same, text⟩ := induction (writer.step event).1
          rw [List.filter_cons_of_pos (by simp [link]), run_cons, run_cons, said_append,
            said_append, text]
          exact ⟨same, rfl⟩
      | true =>
          have silent : (writer.step event).1 = writer ∧ said (writer.step event).2 = [] := by
            unfold isLink at link
            split at link
            · exact ⟨rfl, writer.said_inlineMarkup rfl⟩
            · exact ⟨rfl, writer.said_inlineMarkup rfl⟩
            · contradiction
          rw [List.filter_cons_of_neg (by simp [link]), run_cons, said_append, silent.1, silent.2]
          exact induction writer

theorem said_tag {piece : Piece} (within : piece.Within .document)
    (silent : piece.plainText = []) : said [.markup piece.write] = [] := by
  have read := Piece.plainText_write Vocabulary.legible_document (by decide) within
  rw [silent] at read
  show plainText piece.write ++ [] = []
  rw [read]
  rfl

/-- A heading that becomes a link to itself says what it has said. -/
theorem run_linkContent (writer : Writer) (id : Text) (inner : List Event) :
    (writer.run (linkContent id inner)).1 = (writer.run inner).1 ∧
      said (writer.run (linkContent id inner)).2 = said (writer.run inner).2 := by
  let anchor := Piece.startTag "a" [.of "href" ('#' :: id)]
  have opens : said [.markup anchor.write] = [] :=
    said_tag (Piece.within_startTag_of (by decide) (by decide) _) rfl
  have closes : said [.markup (Piece.endTag "a").write] = [] :=
    said_tag (show ("a" : Text) ∈ Vocabulary.document.elements by decide) rfl
  obtain ⟨same, text⟩ := writer.run_filter_links inner
  have inOrder : writer.run (linkContent id inner) =
      ((writer.run (inner.filter fun event => !isLink event)).1,
        [.markup anchor.write] ++ ((writer.run (inner.filter fun event => !isLink event)).2 ++
          [.markup (Piece.endTag "a").write])) := by
    rw [linkContent, List.cons_append, run_cons, run_append]
    rfl
  rw [inOrder, said_append, said_append, opens, closes, text]
  exact ⟨same, by simp⟩

end Writer

end Html

end DocSite
