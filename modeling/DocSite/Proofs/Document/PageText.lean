import DocSite.Proofs.Document.StageText

/-!
# The text of a page

A page says what its document says: no text is lost, repeated or altered on the way, although code
is kept until its block ends or is taken from the highlighter, headings are put together anew, and
the text in images goes elsewhere.
-/

namespace DocSite

open Html (Piece Vocabulary Writer plainText)
open Markdown (enclose)

namespace Document

/-- Whether images hold nothing but running text. -/
def imagesInline : (opened : Nat) → List Event → Bool
  | _, [] => true
  | opened, event :: rest =>
    (opened == 0 || event.isInline) && imagesInline (event.imagesBehind opened) rest

theorem imagesInline_append (opened : Nat) (left right : List Event) :
    imagesInline opened (left ++ right) =
      (imagesInline opened left && imagesInline (imagesBehind opened left) right) := by
  induction left generalizing opened with
  | nil => rfl
  | cons event left induction =>
      rw [List.cons_append, imagesInline, imagesInline, induction, Bool.and_assoc]
      rfl

namespace Section

/-! ## Sections as they are written -/

theorem visibleText_code (kind : CodeBlockKind) (lines : List Text) :
    visibleText 0 (code kind lines).events = lines.flatten := by
  have texts : ∀ lines : List Text, visibleText 0 (lines.map .text ++ [.finish .codeBlock]) =
      lines.flatten := by
    intro lines
    induction lines with
    | nil => rfl
    | cons line lines induction => exact congrArg (line ++ ·) induction
  exact texts lines

theorem said_run {part : Section} {writer : Writer} (idle : writer.code = none)
    (inline : imagesInline writer.imageDepth part.events)
    (free : ∀ event ∈ part.events, event.isMarkup = false) :
    Html.said (writer.run part.events).2 = visibleText writer.imageDepth part.events := by
  cases part with
  | plain event other =>
      refine Writer.said_run idle (fun opening member => ?_) free
      obtain rfl := List.mem_singleton.mp member
      exact ((Event.bounds_eq_false_iff opening).mp other).2.2.1
  | heading level id inner other =>
      exact Writer.said_run idle (heading_not_codeStart level id inner other) free
  | code kind lines =>
      -- A code block is no running text, so it stands outside of images.
      have outside : writer.imageDepth = 0 := by
        by_contra inside
        simp [events, imagesInline, inside, Event.isInline] at inline
      have run := writer.run_codeBlock kind lines
      rw [outside, visibleText_code]
      show Html.said (writer.run (enclose (.codeBlock kind) (lines.map .text))).2 = lines.flatten
      rw [run, Writer.said_codePieces]

theorem said_run_sections {sections : List Section} {writer : Writer} (idle : writer.code = none)
    (inline : imagesInline writer.imageDepth (sections.flatMap events))
    (free : ∀ event ∈ sections.flatMap events, event.isMarkup = false) :
    Html.said (writer.run (sections.flatMap events)).2 =
      visibleText writer.imageDepth (sections.flatMap events) := by
  induction sections generalizing writer with
  | nil => rfl
  | cons part sections induction =>
      rw [List.flatMap_cons, imagesInline_append, Bool.and_eq_true] at inline
      simp only [List.flatMap_cons, List.mem_append, or_imp, forall_and] at free
      have depth := writer.imageDepth_run part.events
      have rest := induction (part.code_run idle) (by rw [depth]; exact inline.2) free.2
      rw [List.flatMap_cons, Writer.run_append, Html.said_append, visibleText_append,
        said_run idle inline.1 free.1, rest, depth]

end Section

/-! ## Pages -/

variable {events : List Event}

/-- Whichever stages are run, the page says what the writer says of the document as it was. -/
theorem plainText_render {tools : Tools} (spans : tools.SpansCode) (stages : List Stage)
    (sectioned : Sectioned events) (free : ∀ event ∈ events, event.isMarkup = false) :
    plainText (Html.render (Stage.runAll tools stages events)) =
      Html.said (({} : Writer).run events).2 := by
  obtain ⟨sections, rfl⟩ := sectioned
  have within : MarkupWithin .inserted (sections.flatMap Section.events) :=
    fun event member => Event.markupWithin_of_not_isMarkup (free event member)
  have pieces := Writer.run_within_of_markupWithin Vocabulary.writer_le_document {}
    ((within.runAll spans stages).mono Vocabulary.inserted_le_document)
  have unchanged := (Section.saysAs_sections spans stages sections {} rfl).2
  rw [← unchanged, ← Section.runAll_sections]
  exact Piece.plainText_writeAll Vocabulary.legible_document (by decide) pieces

/-- What the writer says of a document is what is seen of it. -/
theorem said_run_document (sectioned : Sectioned events) (inline : imagesInline 0 events)
    (free : ∀ event ∈ events, event.isMarkup = false) :
    Html.said (({} : Writer).run events).2 = visibleText 0 events := by
  obtain ⟨sections, rfl⟩ := sectioned
  exact Section.said_run_sections rfl inline free

/-! ## Markdown -/

theorem WellNested.imagesBehind_eq {events : List Event} (nested : WellNested events)
    (opened : Nat) : imagesBehind opened events = opened := by
  induction nested generalizing opened with
  | nil => rfl
  | @leaf event isLeaf =>
      cases event with
      | start tag => simp [Event.isLeaf] at isLeaf
      | finish tag => simp [Event.isLeaf] at isLeaf
      | _ => rfl
  | @element tag inner _ _ induction =>
      have behind : imagesBehind opened (enclose tag inner) = (Event.finish tag.toEnd).imagesBehind
          (imagesBehind ((Event.start tag).imagesBehind opened) inner) := by
        simp [imagesBehind, enclose]
      rw [behind, induction]
      cases tag <;> rfl
  | append _ _ leftInduction rightInduction =>
      have left := leftInduction opened
      have right := rightInduction opened
      unfold imagesBehind at left right ⊢
      rw [List.foldl_append, left, right]

theorem imagesInline_of_isInline {events : List Event} (inline : ∀ event ∈ events, event.isInline)
    (opened : Nat) : imagesInline opened events := by
  induction events generalizing opened with
  | nil => rfl
  | cons event events induction =>
      simp only [List.mem_cons, forall_eq_or_imp] at inline
      rw [imagesInline, inline.1, Bool.or_true, Bool.true_and]
      exact induction inline.2 _

private theorem imagesInline_enclose {tag : Tag} {inner : List Event}
    (other : (Event.start tag).imagesBehind 0 = 0) (nested : WellNested inner)
    (inline : imagesInline 0 inner) : imagesInline 0 (enclose tag inner) := by
  have whole : imagesInline 0 (enclose tag inner) =
      imagesInline ((Event.start tag).imagesBehind 0) (inner ++ [.finish tag.toEnd]) := rfl
  rw [whole, other, imagesInline_append, inline, nested.imagesBehind_eq]
  rfl

theorem Shaped.imagesInline {events : List Event} (shaped : Shaped Tag.Holds events) :
    imagesInline 0 events := by
  have nested {events : List Event} (shaped : Shaped Tag.Holds events) : WellNested events :=
    shaped.wellNested fun held => held.1.canHold
  induction shaped with
  | nil => rfl
  | leaf _ => rfl
  | @element tag inner _ holds isInner induction =>
      cases tag with
      | image destination title =>
          have inline : ∀ event ∈ inner ++ [.finish .image], event.isInline := by
            intro event member
            rcases List.mem_append.mp member with member | member
            · exact holds.2 _ _ rfl event member
            · obtain rfl := List.mem_singleton.mp member
              rfl
          exact imagesInline_of_isInline inline 1
      | _ => exact imagesInline_enclose rfl (nested isInner) induction
  | @table alignments head rows _ _ isHead isRows headInduction rowsInduction =>
      have headElement : WellNested (enclose .tableHead head) := .element trivial (nested isHead)
      refine imagesInline_enclose rfl (headElement.append (nested isRows)) ?_
      rw [imagesInline_append, imagesInline_enclose rfl (nested isHead) headInduction,
        headElement.imagesBehind_eq, rowsInduction]
      rfl
  | append isLeft _ leftInduction rightInduction =>
      rw [imagesInline_append, leftInduction, (nested isLeft).imagesBehind_eq, rightInduction]
      rfl

theorem imagesInline_map_showMarkup {events : List Event} {opened : Nat}
    (inline : imagesInline opened events) : imagesInline opened (events.map showMarkup) := by
  induction events generalizing opened with
  | nil => rfl
  | cons event events induction =>
      have behind : (showMarkup event).imagesBehind opened = event.imagesBehind opened := by
        cases event with
        | start tag => cases tag <;> rfl
        | finish tag => cases tag <;> rfl
        | _ => rfl
      rw [imagesInline, Bool.and_eq_true, Bool.or_eq_true] at inline
      rw [List.map_cons, imagesInline, Bool.and_eq_true, Bool.or_eq_true, behind]
      exact ⟨inline.1.imp_right isInline_showMarkup, induction inline.2⟩

/-! ## Pages -/

/-- A page says what is seen of its document: if the document is well nested, has no markup of its
own, and holds nothing but running text in its images, then what is left of the page without tags
and references are the texts of the document in order, whichever stages have been run. Every
Markdown text is read as such a document. -/
theorem plainText_page {tools : Tools} (spans : tools.SpansCode) (stages : List Stage) :
    (∀ events, WellNested events → imagesInline 0 events →
      (∀ event ∈ events, event.isMarkup = false) →
      plainText (Html.render (Stage.runAll tools stages events)) = visibleText 0 events) ∧
    ∀ markdown, plainText (Html.render (Stage.runAll tools stages (parse markdown))) =
      visibleText 0 (parse markdown) := by
  have page (events : List Event) (nested : WellNested events) (inline : imagesInline 0 events)
      (free : ∀ event ∈ events, event.isMarkup = false) :
      plainText (Html.render (Stage.runAll tools stages events)) = visibleText 0 events := by
    rw [plainText_render spans stages nested.sectioned free,
      said_run_document nested.sectioned inline free]
  exact ⟨page, fun markdown => page _ (Markdown.wellNested_read markdown).map_showMarkup
    (imagesInline_map_showMarkup (Markdown.holds_read markdown).imagesInline)
    (isMarkup_parse .standard markdown)⟩

/-- A call-out, a heading with a link and with an image, a task, and code with an apostrophe, with
stages that run out of order and twice. -/
theorem plainText_page_call_out :
    let stages := [Stage.linkHeadings, .slugHeadings, .linkHeadings, .highlightCode, .linkHeadings]
    let image := enclose (.image "i" "") [.text "alt", .softBreak, .code "<"]
    let heading := enclose (.heading .h2 none) (enclose (.link "/x" "") [.text "A&"] ++ image)
    let quote := enclose (.blockQuote (some .note))
      (enclose .paragraph [.text "b", .softBreak, .code "<c>"])
    let code := enclose (.codeBlock (.fenced "rust")) [.text "'d'\n", .text "\"&amp;\""]
    let events := heading ++ quote ++ enclose .item [.taskMarker true, .text "e"] ++ code
    Tools.standard.SpansCode ∧ WellNested events ∧ imagesInline 0 events ∧
      (∀ event ∈ events, event.isMarkup = false) ∧
      visibleText 0 events = "A&Noteb\n<c> e'd'\n\"&amp;\"".toList ∧
      plainText (Html.render (Stage.runAll .standard stages events)) = visibleText 0 events := by
  intro stages image heading quote code events
  have isImage : WellNested image :=
    .element trivial (.append (.leaf rfl) (.append (.leaf rfl) (.leaf rfl)))
  have isHeading : WellNested heading := by
    refine .element ?_ (.append (.element trivial (.leaf rfl)) isImage)
    show ∀ event ∈ enclose (.link "/x" "") [.text "A&"] ++ image, event.isInline
    decide
  have isQuote : WellNested quote :=
    .element trivial (.element trivial (.append (.leaf rfl) (.append (.leaf rfl) (.leaf rfl))))
  have isItem : WellNested (enclose .item [.taskMarker true, .text "e"]) :=
    .element trivial (.append (.leaf rfl) (.leaf rfl))
  have isCode : WellNested code := by
    refine .element ⟨["'d'\n", "\"&amp;\""], rfl⟩ ?_
    exact .append (.leaf rfl) (.leaf rfl)
  have nested : WellNested events := ((isHeading.append isQuote).append isItem).append isCode
  have free : ∀ event ∈ events, event.isMarkup = false := by decide
  exact ⟨Tools.standard_spansCode, nested, by decide, free, by decide,
    (plainText_page Tools.standard_spansCode stages).1 events nested (by decide) free⟩

end Document

end DocSite
