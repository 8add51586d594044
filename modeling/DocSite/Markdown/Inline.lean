import DocSite.Markdown.Event

/-!
# Inline content

What a line of running text is made of once all its marks are understood, and the events of it.
-/

namespace DocSite.Markdown

/-- A piece of running text. -/
inductive Inline
  | text (content : Text)
  | code (content : Text)
  | html (markup : Text)
  | softBreak
  | hardBreak
  | taskMarker (checked : Bool)
  | emphasis (content : List Inline)
  | strong (content : List Inline)
  | strikethrough (content : List Inline)
  | link (destination title : Text) (content : List Inline)
  | image (destination title : Text) (content : List Inline)

/-- The events of an element with the given content. -/
def enclose (tag : Tag) (content : List Event) : List Event :=
  .start tag :: content ++ [.finish tag.toEnd]

mutual

/-- The events of a piece of running text. -/
def Inline.events : Inline → List Event
  | .text content => [.text content]
  | .code content => [.code content]
  | .html markup => [.inlineHtml markup]
  | .softBreak => [.softBreak]
  | .hardBreak => [.hardBreak]
  | .taskMarker checked => [.taskMarker checked]
  | .emphasis content => enclose .emphasis (Inline.eventsOfList content)
  | .strong content => enclose .strong (Inline.eventsOfList content)
  | .strikethrough content => enclose .strikethrough (Inline.eventsOfList content)
  | .link destination title content =>
    enclose (.link destination title) (Inline.eventsOfList content)
  | .image destination title content =>
    enclose (.image destination title) (Inline.eventsOfList content)

/-- The events of running text, piece after piece. -/
def Inline.eventsOfList : List Inline → List Event
  | [] => []
  | piece :: rest => piece.events ++ Inline.eventsOfList rest

end

end DocSite.Markdown
