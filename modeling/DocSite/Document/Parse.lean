import DocSite.Code.Highlighter
import DocSite.Markdown.Reader

/-!
# Documents from Markdown

Documents are made with two tools: a reader of Markdown and a highlighter of code. All that happens
to a document is defined for any two tools; the standard ones are those of this library. A
document's events are those of its Markdown text, except that raw HTML counts as text: what the
author wrote is shown and never becomes markup.
-/

namespace DocSite.Document

/-! ## Tools -/

/-- The tools that documents are made with. -/
structure Tools where
  /-- Reads a Markdown text, with raw HTML as markup. -/
  read : Text → List Event
  /-- Writes code in a language as markup, if the language is known. -/
  highlight? : (code language : Text) → Option Text
  /-- Writes the rules that give highlighted code the colours of a theme, or tells why it cannot. -/
  codeRules : (theme : Text) → Except Text Text

/-- The tools of this library. They leave highlighted code without colours. -/
def Tools.standard : Tools where
  read := Markdown.read
  highlight? code language := (Code.highlight? code language).map Html.Piece.writeAll
  codeRules _ := .ok []

/-! ## Events -/

/-- Raw HTML as text. -/
def showMarkup : Event → Event
  | .start .htmlBlock => .start .paragraph
  | .finish .htmlBlock => .finish .paragraph
  | .html markup => .text markup
  | .inlineHtml markup => .text markup
  | event => event

/-- The events of a Markdown document, read with some tools. -/
def Tools.parse (tools : Tools) (markdown : Text) : List Event :=
  (tools.read markdown).map showMarkup

/-- The events of a Markdown document. -/
def parse (markdown : Text) : List Event :=
  Tools.standard.parse markdown

end DocSite.Document
