import DocSite.Proofs.Document.ImageText
import DocSite.Proofs.Html.Frames

/-!
# Documents written in batches

A document may be given to a writer in batches, cut wherever one likes. What the writer has written
is taken away after each batch, and what it remembers is kept; so the batches are written as the
document is, and a code block or an image that is cut is written with the batch that it ends in.
-/

namespace DocSite

namespace Html.Writer

open Document (WellNested lineBreaks_of_not_mem)

variable {writer : Writer}

theorem renderAll_cons (writer : Writer) (events : List Event) (rest : List (List Event)) :
    writer.renderAll (events :: rest) =
      (writer.render events).2 :: (writer.render events).1.renderAll rest :=
  rfl

theorem render_append_fst (writer : Writer) (left right : List Event) :
    (writer.render (left ++ right)).1 = ((writer.render left).1.render right).1 := by
  simp [render, run_append]

/-! ## Cuts anywhere -/

theorem flatten_renderAll (writer : Writer) (batches : List (List Event)) :
    (writer.renderAll batches).flatten = (writer.render batches.flatten).2 := by
  induction batches generalizing writer with
  | nil => rfl
  | cons events batches induction =>
      rw [renderAll_cons, List.flatten_cons, List.flatten_cons, induction, ← render_append]

theorem renderAll_append (writer : Writer) (batches more : List (List Event)) :
    writer.renderAll (batches ++ more) =
      writer.renderAll batches ++ (writer.render batches.flatten).1.renderAll more := by
  induction batches generalizing writer with
  | nil => rfl
  | cons events batches induction =>
      rw [List.cons_append, renderAll_cons, renderAll_cons, induction, List.cons_append,
        List.flatten_cons, render_append_fst]

/-! ## Cuts inside of elements -/

theorem renderAll_of_silent {front : List Event} (silent : (writer.render front).2 = [])
    (back : List Event) :
    writer.renderAll [front, back] = [[], (writer.render (front ++ back)).2] := by
  rw [render_append, renderAll_cons, renderAll_cons, silent]
  rfl

/-- What there is of a code block before a cut is written behind it. -/
theorem renderAll_cut_code (writer : Writer) (kind : CodeBlockKind) (lines : List Text)
    (rest : List Event) :
    writer.renderAll [.start (.codeBlock kind) :: lines.map .text, rest] =
      [[], (writer.render (.start (.codeBlock kind) :: lines.map .text ++ rest)).2] := by
  apply renderAll_of_silent
  have inCode : ((writer.startTag (.codeBlock kind)).1).code =
      some { language := codeLanguage? kind } := rfl
  rw [render, run_cons, step, run_texts inCode]
  rfl

/-- In an image that does not end, phrases other than hard breaks are written as nothing. -/
private theorem silent_step (idle : writer.code = none) (inside : writer.inImage) {event : Event}
    (phrase : event.isPhrase) (goesOn : event ≠ .finish .image) (other : event ≠ .hardBreak) :
    (writer.step event).2 = [] ∧ (writer.step event).1.code = none ∧
      (writer.step event).1.inImage := by
  have altCode (text : Text) : (writer.addAlt text).code = none := idle
  cases event with
  | start tag =>
      cases tag with
      | emphasis | strong | strikethrough | superscript | subscript | link _ _ =>
          simp [step, startTag, inlineMarkup, inside, idle]
      | image destination title =>
          have deeper : (writer.step (.start (.image destination title))).1.inImage := by
            simp [step, inImage, (writer.startTag_image destination title).1]
          exact ⟨by simp [step, startTag, inside],
            (writer.startTag_image destination title).2.1.trans idle, deeper⟩
      | _ => simp [Event.isPhrase, Event.isInline] at phrase
  | finish tag =>
      cases tag with
      | emphasis | strong | strikethrough | superscript | subscript | link =>
          simp [step, endTag, inlineMarkup, inside, idle]
      | image => exact (goesOn rfl).elim
      | _ => simp [Event.isPhrase, Event.isInline] at phrase
  | text content => simp [step, idle, inside, altCode]
  | code content => simp [step, inside, altCode]
  | softBreak => simp [step, inside, altCode]
  | hardBreak => exact (other rfl).elim
  | _ => simp [Event.isPhrase, Event.isInline] at phrase

private theorem silent_run (idle : writer.code = none) (inside : writer.inImage)
    {events : List Event} (phrases : ∀ event ∈ events, event.isPhrase)
    (goesOn : .finish .image ∉ events) (absent : .hardBreak ∉ events) :
    (writer.run events).2 = [] := by
  induction events generalizing writer with
  | nil => rfl
  | cons event events induction =>
      simp only [List.mem_cons, forall_eq_or_imp, not_or] at phrases goesOn absent
      obtain ⟨silent, idle', inside'⟩ :=
        silent_step idle inside phrases.1 (Ne.symm goesOn.1) (Ne.symm absent.1)
      rw [run_cons, silent, induction idle' inside' phrases.2 goesOn.2 absent.2]
      rfl

/-- What there is of an image before a cut is written behind it, unless there is a hard break. -/
theorem renderAll_cut_image (idle : writer.code = none) (destination title : Text)
    {front : List Event} (phrases : ∀ event ∈ front, event.isPhrase)
    (goesOn : .finish .image ∉ front) (absent : .hardBreak ∉ front) (rest : List Event) :
    writer.renderAll [.start (.image destination title) :: front, rest] =
      [[], (writer.render (.start (.image destination title) :: front ++ rest)).2] := by
  apply renderAll_of_silent
  obtain ⟨depth, code, -⟩ := writer.startTag_image destination title
  have inside : (writer.startTag (.image destination title)).1.inImage := by
    simp [inImage, depth]
  have opens : (writer.step (.start (.image destination title))).2 = [] := by
    simp only [step, startTag]
    split <;> rfl
  have silent := silent_run (code.trans idle) inside phrases goesOn absent
  rw [render, run_cons, opens]
  exact congrArg Piece.writeAll silent

/-! ## Batches -/

/-- However a document is cut into batches, what a new writer writes for them one after the other
is what is written for the whole document, and any writer goes on behind the batches as it does
behind the whole document. A code block that is cut is written whole with the batch that it ends
in, and so is an image if there is no hard break in front of the cut. -/
theorem batches_compose :
    (∀ batches : List (List Event),
      (({} : Writer).renderAll batches).flatten = Html.render batches.flatten ∧
        ∀ (writer : Writer) (more : List (List Event)),
          writer.renderAll (batches ++ more) =
            writer.renderAll batches ++ (writer.render batches.flatten).1.renderAll more) ∧
    (∀ (writer : Writer) (kind : CodeBlockKind) (lines : List Text) (rest : List Event),
      let front := .start (.codeBlock kind) :: lines.map .text
      writer.renderAll [front, rest] = [[], (writer.render (front ++ rest)).2]) ∧
    ∀ (writer : Writer) (destination title : Text) (content rest : List Event),
      writer.code = none → (∀ event ∈ content, event.isPhrase) → .finish .image ∉ content →
      .hardBreak ∉ content →
      let front := .start (.image destination title) :: content
      writer.renderAll [front, rest] = [[], (writer.render (front ++ rest)).2] := by
  refine ⟨fun batches => ⟨flatten_renderAll {} batches, fun writer more => ?_⟩, ?_, ?_⟩
  · exact writer.renderAll_append batches more
  · exact renderAll_cut_code
  · intro writer destination title content rest idle phrases goesOn absent
    exact renderAll_cut_image idle destination title phrases goesOn absent rest

/-- An image that is cut within emphasis. -/
theorem batches_compose_cut_image :
    let content : List Event := [.start .emphasis, .text "a"]
    let front := .start (.image "x.png" "") :: content
    let back : List Event := [.text "b", .finish .emphasis, .finish .image]
    (∀ event ∈ content, event.isPhrase) ∧ .finish .image ∉ content ∧ .hardBreak ∉ content ∧
      ({} : Writer).renderAll [front, back] = [[], "<img src=\"x.png\" alt=\"ab\">"] := by
  intro content front back
  have phrases : ∀ event ∈ content, event.isPhrase := by decide
  have goesOn : .finish .image ∉ content := by decide
  have absent : .hardBreak ∉ content := by decide
  have cut := batches_compose.2.2 {} "x.png" "" content back rfl phrases goesOn absent
  refine ⟨phrases, goesOn, absent, cut.trans ?_⟩
  decide +kernel

-- A cut between the cells of a table, inside of a plain quote in a call-out.
example :
    let cell := fun content : Text => Markdown.enclose .tableCell [.text content]
    ({} : Writer).renderAll
        [[.start (.blockQuote (some .tip)), .start (.blockQuote none),
            .start (.table [.right, .center]), .start .tableHead] ++ cell "a",
          cell "b" ++ [.finish .tableHead, .finish .table, .finish (.blockQuote none),
            .finish (.blockQuote none)]] =
      ["<div class=\"alert alert-tip\"><p class=\"alert-title\">Tip</p><blockquote>".toList ++
          "<table><thead><tr><th style=\"text-align:right\">a</th>".toList,
        "<th style=\"text-align:center\">b</th></tr></thead><tbody></tbody></table>".toList ++
          "</blockquote></div>".toList] := by
  decide +kernel

end Html.Writer

end DocSite
