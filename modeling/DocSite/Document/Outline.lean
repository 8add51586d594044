import DocSite.Document.Parse
import DocSite.Document.Span
import DocSite.Text.Blank
import DocSite.Text.LetterCase

/-!
# Slugs and outlines

A heading's slug is the name by which links reach it. The outline of a document lists its headings
of the levels two to four with their slugs.
-/

namespace DocSite

/-! ## Slugs -/

/-- Puts one hyphen in the place of each run of blank characters; `inBlank` says that the
characters before belong to such a run. -/
def hyphenate : (inBlank : Bool) → Text → Text
  | _, [] => []
  | inBlank, c :: rest =>
    if Text.isBlank c then
      if inBlank then hyphenate true rest else '-' :: hyphenate true rest
    else c :: hyphenate false rest

/-- The slug of a text: its lower-case form with one hyphen for each run of blank characters. -/
def slugify (text : Text) : Text :=
  hyphenate false (Text.lower text)

namespace Document

/-! ## Outlines -/

/-- What an event adds to the text of the heading that it stands in. -/
def headingTextOf : Event → Text
  | .text content => content
  | .code content => content
  | .softBreak | .hardBreak => ['\n']
  | _ => []

/-- The text of a heading, given the events in it. -/
def headingText (inner : List Event) : Text :=
  inner.flatMap headingTextOf

/-- An entry of an outline. -/
structure Heading where
  /-- The level of the heading. -/
  level : Nat
  /-- Its text. -/
  text : Text
  /-- Its slug. -/
  id : Text
  deriving DecidableEq, Repr

/-- The entry of the heading with the given span, if the outline has one. -/
def headingAt? (events : List Event) (span : Span) : Option Heading :=
  match events[span.start]? with
  | some (.start (.heading level _)) =>
    if 2 ≤ level.number && level.number ≤ 4 then
      let text := headingText (span.inner events)
      some { level := level.number, text, id := slugify text }
    else none
  | _ => none

/-- The outline of a document that is read with some tools. -/
def Tools.outline (tools : Tools) (markdown : Text) : List Heading :=
  let events := tools.parse markdown
  (headingSpans events).filterMap (headingAt? events)

/-- The outline of a document. -/
def outline (markdown : Text) : List Heading :=
  Tools.standard.outline markdown

end Document

end DocSite
