import DocSite.Document.Outline
import DocSite.Html.Writer

/-!
# Stages

A stage changes the events of a document. The standard ones give every heading its slug, make
every heading a link to itself, and highlight code; they are run between reading a document and
writing it.
-/

namespace DocSite.Document

/-! ## Slugs -/

/-- Sets the id of the heading that starts at a position. -/
def setHeadingId (id : Text) (events : List Event) (position : Nat) : List Event :=
  match events[position]? with
  | some (.start (.heading level _)) => events.set position (.start (.heading level (some id)))
  | _ => events

/-- Gives the heading with the given span the slug of its text. -/
def slugSpan (events : List Event) (span : Span) : List Event :=
  setHeadingId (slugify (headingText (span.inner events))) events span.start

/-- Gives every heading the slug of its text. -/
def slugHeadings (events : List Event) : List Event :=
  (headingSpans events).foldl slugSpan events

/-! ## Links to headings -/

/-- Whether an event is the start or the end of a link. -/
def isLink : Event → Bool
  | .start (.link _ _) => true
  | .finish .link => true
  | _ => false

/-- The content of a heading inside a link to the heading. Links cannot nest, so those in the
content keep only what is in them. -/
def linkContent (id : Text) (inner : List Event) : List Event :=
  let opening := Html.Piece.startTag "a" [.of "href" ('#' :: id)]
  .html opening.write :: inner.filter (fun event => !isLink event) ++
    [.html (Html.Piece.endTag "a").write]

/-- Makes the heading with the given span a link to itself if it has an id. -/
def linkSpan (events : List Event) (span : Span) : List Event :=
  match events[span.start]? with
  | some (.start (.heading _ (some id))) =>
    splice events (span.start + 1) span.stop (linkContent id (span.inner events))
  | _ => events

/-- Makes every heading that has an id a link to itself. The last one comes first, so that the
positions of the others stay right. -/
def linkHeadings (events : List Event) : List Event :=
  (headingSpans events).reverse.foldl linkSpan events

/-! ## Highlighting -/

/-- What an event adds to the code of the block that it stands in. -/
def codeOf : Event → Text
  | .text content => content
  | _ => []

/-- A highlighted block of code in a known language. -/
def highlightedBlock (language highlighted : Text) : List Html.Piece :=
  let name := "language-".toList ++ language
  [.startTag "pre" [.of "class" name],
    .startTag "code" [.of "class" (name ++ " code-highlight".toList)],
    .markup highlighted, .endTag "code", .endTag "pre"]

/-- The markup of the block that opens with a fence and holds the given events, if its language is
known. -/
def highlightBlock? (tools : Tools) (info : Text) (inner : List Event) : Option Text := do
  let language ← Html.fenceLanguage? info
  let highlighted ← tools.highlight? (inner.flatMap codeOf) language
  some (Html.Piece.writeAll (highlightedBlock language highlighted))

/-- Highlights the code block with the given span, or forgets its language if that is not
known. -/
def highlightSpan (tools : Tools) (events : List Event) (span : Span) : List Event :=
  match events[span.start]? with
  | some (.start (.codeBlock (.fenced info))) =>
    match highlightBlock? tools info (span.inner events) with
    | some markup => splice events span.start (span.stop + 1) [.html markup]
    | none => events.set span.start (.start (.codeBlock (.fenced [])))
  | _ => events

/-- Highlights every fenced code block in a known language. -/
def highlightCode (tools : Tools) (events : List Event) : List Event :=
  (codeSpans events).reverse.foldl (highlightSpan tools) events

/-! ## Pipelines -/

/-- A change that is made to documents. -/
inductive Stage
  | slugHeadings
  | linkHeadings
  | highlightCode
  deriving DecidableEq, Repr

namespace Stage

/-- The name of a stage. -/
def name : Stage → Text
  | slugHeadings => "slug-headings"
  | linkHeadings => "autolink-headings"
  | highlightCode => "highlight-code"

/-- Runs a stage with some tools. -/
def run (tools : Tools) : Stage → List Event → List Event
  | slugHeadings => Document.slugHeadings
  | linkHeadings => Document.linkHeadings
  | highlightCode => Document.highlightCode tools

/-- Runs stages one after the other with some tools. -/
def runAll (tools : Tools) (stages : List Stage) (events : List Event) : List Event :=
  stages.foldl (fun events stage => stage.run tools events) events

/-- Runs stages one after the other. -/
def applyAll (stages : List Stage) (events : List Event) : List Event :=
  runAll .standard stages events

/-- The stages that every page goes through. -/
def standard : List Stage :=
  [slugHeadings, linkHeadings, highlightCode]

end Stage

/-- A Markdown document as HTML, by way of some stages and made with some tools. -/
def Tools.render (tools : Tools) (stages : List Stage) (markdown : Text) : Text :=
  Html.render (Stage.runAll tools stages (tools.parse markdown))

/-- A Markdown document as HTML, by way of some stages. -/
def render (stages : List Stage) (markdown : Text) : Text :=
  Tools.standard.render stages markdown

/-- What documents are rendered with. -/
structure Renderer where
  /-- The stages that they go through. -/
  stages : List Stage
  /-- The tools that they are made with. -/
  tools : Tools := .standard

/-- Stages by themselves are run with the tools of this library. -/
instance : Coe (List Stage) Renderer where
  coe stages := { stages }

/-- A Markdown document as HTML. -/
def Renderer.render (renderer : Renderer) (markdown : Text) : Text :=
  renderer.tools.render renderer.stages markdown

end DocSite.Document
