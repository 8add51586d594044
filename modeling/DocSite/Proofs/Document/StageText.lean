import DocSite.Proofs.Document.Section
import DocSite.Proofs.Document.WrittenText

/-!
# Stages keep the text

Stages change how a document looks and not what it says: ids are not seen, a heading that becomes a
link keeps its content, and highlighted code says the code.
-/

namespace DocSite

open Html (Piece Vocabulary Writer plainText)
open Markdown (enclose)

namespace Document

/-! ## Highlighted code -/

theorem Spanned.plainText_eq {code markup : Text} (spanned : Spanned code markup) :
    plainText markup = code := by
  have legible := Vocabulary.legible_document
  induction spanned with
  | nil => rfl
  | @char c written code markup escaped _ induction =>
      have isText : Vocabulary.document.IsText written ∧ Html.decode written = [c] := by
        rcases escaped with rfl | rfl
        · have read := Html.decode_escapeChar c []
          rw [List.append_nil] at read
          exact ⟨Vocabulary.isText_escapeChar (by decide) c, read⟩
        · refine ⟨(isText_codeEscapeChar c).mono Vocabulary.inserted_le_document, ?_⟩
          by_cases apostrophe : c = '\x27'
          · subst apostrophe
            rfl
          · have read := Html.decode_escapeChar c []
            rw [List.append_nil] at read
            rw [codeEscapeChar_eq apostrophe]
            exact read
      rw [isText.1.plainText_append legible, isText.2, induction]
      rfl
  | opening classes _ induction =>
      have within : (Piece.startTag "span" [.of "class" classes]).Within .document :=
        Piece.within_startTag_of (by decide) (by decide) classes
      rw [(within.isMarkup_write (by decide)).plainText_append legible,
        Piece.plainText_write legible (by decide) within, induction]
      rfl
  | closing _ induction =>
      have within : (Piece.endTag "span").Within .document :=
        show ("span" : Text) ∈ Vocabulary.document.elements by decide
      rw [(within.isMarkup_write (by decide)).plainText_append legible,
        Piece.plainText_write legible (by decide) within, induction]
      rfl

theorem flatMap_codeOf (lines : List Text) :
    (lines.map Event.text).flatMap codeOf = lines.flatten := by
  induction lines with
  | nil => rfl
  | cons line lines induction =>
      rw [List.map_cons, List.flatMap_cons, induction]
      rfl

theorem plainText_highlightBlock {tools : Tools} (spans : tools.SpansCode) {info : Text}
    {lines : List Text} {markup : Text}
    (made : highlightBlock? tools info (lines.map .text) = some markup) :
    plainText markup = lines.flatten := by
  obtain ⟨language, highlighted, found, rfl⟩ := exists_of_highlightBlock made
  have spanned := spans _ _ _ found
  have within : ∀ piece ∈ highlightedBlock language highlighted, piece.Within .document :=
    fun piece member =>
      (highlightedBlock_within language spanned piece member).mono Vocabulary.inserted_le_document
  rw [Piece.plainText_writeAll Vocabulary.legible_document (by decide) within]
  simp [highlightedBlock, Piece.plainText, spanned.plainText_eq, flatMap_codeOf]

/-! ## Stages -/

/-- Outside of code blocks, a writer says the same of both and goes on in the same way. -/
def SaysAs (left right : List Event) : Prop :=
  ∀ writer : Writer, writer.code = none →
    (writer.run left).1 = (writer.run right).1 ∧
      Html.said (writer.run left).2 = Html.said (writer.run right).2

namespace SaysAs

variable {left right other changedLeft changedRight : List Event}

theorem refl (events : List Event) : SaysAs events events :=
  fun _ _ => ⟨rfl, rfl⟩

theorem trans (first : SaysAs left right) (second : SaysAs right other) : SaysAs left other :=
  fun writer idle => ⟨(first writer idle).1.trans (second writer idle).1,
    (first writer idle).2.trans (second writer idle).2⟩

theorem append (first : SaysAs changedLeft left) (second : SaysAs changedRight right)
    (ends : ∀ writer : Writer, writer.code = none → (writer.run left).1.code = none) :
    SaysAs (changedLeft ++ changedRight) (left ++ right) := by
  intro writer idle
  obtain ⟨between, front⟩ := first writer idle
  obtain ⟨last, back⟩ := second (writer.run left).1 (ends writer idle)
  rw [Writer.run_append, Writer.run_append, between]
  exact ⟨last, by rw [Html.said_append, Html.said_append, front, back]⟩

/-- The id of a heading is not seen. -/
theorem heading (level : HeadingLevel) (id changed : Option Text)
    (inner : ∀ writer : Writer, (writer.run left).1 = (writer.run right).1 ∧
      Html.said (writer.run left).2 = Html.said (writer.run right).2) :
    SaysAs (.start (.heading level changed) :: left ++ [.finish (.heading level)])
      (.start (.heading level id) :: right ++ [.finish (.heading level)]) := by
  intro writer _
  obtain ⟨same, text⟩ := inner writer
  rw [List.cons_append, List.cons_append, Writer.run_cons, Writer.run_cons, Writer.run_append,
    Writer.run_append]
  refine ⟨?_, ?_⟩
  · simp only [Writer.step, Writer.startTag, same]
  · simp only [Writer.step, Writer.startTag, same, Html.said_append, text]
    rfl

end SaysAs

namespace Section

/-- No section leaves a writer in a code block. -/
theorem code_run (part : Section) {writer : Writer} (idle : writer.code = none) :
    (writer.run part.events).1.code = none := by
  cases part with
  | plain event free =>
      refine Writer.code_run idle fun other member => ?_
      obtain rfl := List.mem_singleton.mp member
      exact ((Event.bounds_eq_false_iff other).mp free).2.2.1
  | heading level id inner free =>
      exact Writer.code_run idle (heading_not_codeStart level id inner free)
  | code kind lines =>
      have run := writer.run_codeBlock kind lines
      rw [Markdown.enclose] at run
      rw [events]
      exact congrArg (fun outcome => outcome.1.code) run

theorem saysAs_code (kind changed : CodeBlockKind) (lines : List Text) :
    SaysAs (code changed lines).events (code kind lines).events := by
  intro writer _
  have before := writer.run_codeBlock kind lines
  have after := writer.run_codeBlock changed lines
  show (writer.run (enclose (.codeBlock changed) (lines.map .text))).1 =
      (writer.run (enclose (.codeBlock kind) (lines.map .text))).1 ∧
    Html.said (writer.run (enclose (.codeBlock changed) (lines.map .text))).2 =
      Html.said (writer.run (enclose (.codeBlock kind) (lines.map .text))).2
  rw [before, after, Writer.said_codePieces, Writer.said_codePieces]
  exact ⟨rfl, rfl⟩

theorem saysAs_highlighted {tools : Tools} (spans : tools.SpansCode) {info : Text}
    {lines : List Text} {markup : Text}
    (made : highlightBlock? tools info (lines.map .text) = some markup) :
    SaysAs [.html markup] (code (.fenced info) lines).events := by
  intro writer idle
  have before := writer.run_codeBlock (.fenced info) lines
  have same : { writer with code := none } = writer := by
    rw [← idle]
  have text : Html.said [.markup markup] = lines.flatten := by
    simp [Html.said, Piece.plainText, plainText_highlightBlock spans made]
  show (writer.run [.html markup]).1 =
      (writer.run (enclose (.codeBlock (.fenced info)) (lines.map .text))).1 ∧
    Html.said (writer.run [.html markup]).2 =
      Html.said (writer.run (enclose (.codeBlock (.fenced info)) (lines.map .text))).2
  rw [before, Writer.said_codePieces, same]
  exact ⟨rfl, text⟩

theorem saysAs_run {tools : Tools} (spans : tools.SpansCode) (stage : Stage) (part : Section) :
    SaysAs (part.run tools stage).events part.events := by
  cases stage with
  | slugHeadings =>
      cases part with
      | heading level id inner free => exact .heading level id _ fun _ => ⟨rfl, rfl⟩
      | plain event free => exact .refl _
      | code kind lines => exact .refl _
  | linkHeadings =>
      cases part with
      | heading level id inner free =>
          cases id with
          | none => exact .refl _
          | some id =>
              exact .heading level _ _ fun writer => writer.run_linkContent id inner
      | plain event free => exact .refl _
      | code kind lines => exact .refl _
  | highlightCode =>
      cases part with
      | code kind lines =>
          cases kind with
          | indented => exact .refl _
          | fenced info =>
              cases made : highlightBlock? tools info (lines.map .text) with
              | none =>
                  simp only [run, highlight, made]
                  exact saysAs_code _ _ lines
              | some markup =>
                  simp only [run, highlight, made]
                  exact saysAs_highlighted spans made
      | plain event free => exact .refl _
      | heading level id inner free => exact .refl _

theorem saysAs_runAll {tools : Tools} (spans : tools.SpansCode) (stages : List Stage)
    (part : Section) : SaysAs (part.runAll tools stages).events part.events := by
  induction stages generalizing part with
  | nil => exact .refl _
  | cons stage stages induction =>
      exact (induction (part.run tools stage)).trans (saysAs_run spans stage part)

/-- Stages change nothing of what is said. -/
theorem saysAs_sections {tools : Tools} (spans : tools.SpansCode) (stages : List Stage)
    (sections : List Section) :
    SaysAs ((sections.map (runAll tools stages)).flatMap events) (sections.flatMap events) := by
  induction sections with
  | nil => exact .refl _
  | cons part sections induction =>
      exact (saysAs_runAll spans stages part).append induction fun _ idle => part.code_run idle

end Section

end Document

end DocSite
