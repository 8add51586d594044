import DocSite.Markdown.Event

/-!
# Spans of events

Where the headings and the code blocks of a document begin and end.
-/

namespace DocSite.Document

/-- The positions of a start and of the end that closes it. -/
structure Span where
  /-- The position of the start. -/
  start : Nat
  /-- The position of the end. -/
  stop : Nat
  deriving DecidableEq, Repr

/-- Collects spans from a position on. A start is forgotten when another one follows it, and an
end without a start is passed over. -/
def spansFrom (isStart isEnd : Event → Bool) :
    (position : Nat) → (opened : Option Nat) → List Event → List Span
  | _, _, [] => []
  | position, opened, event :: rest =>
    if isStart event then spansFrom isStart isEnd (position + 1) (some position) rest
    else if isEnd event then
      match opened with
      | some start => ⟨start, position⟩ :: spansFrom isStart isEnd (position + 1) none rest
      | none => spansFrom isStart isEnd (position + 1) none rest
    else spansFrom isStart isEnd (position + 1) opened rest

/-- Whether an event starts a heading. -/
def isHeadingStart : Event → Bool
  | .start (.heading _ _) => true
  | _ => false

/-- Whether an event ends a heading. -/
def isHeadingEnd : Event → Bool
  | .finish (.heading _) => true
  | _ => false

/-- Whether an event starts a code block. -/
def isCodeStart : Event → Bool
  | .start (.codeBlock _) => true
  | _ => false

/-- Whether an event ends a code block. -/
def isCodeEnd : Event → Bool
  | .finish .codeBlock => true
  | _ => false

/-- The spans of the headings. -/
def headingSpans (events : List Event) : List Span :=
  spansFrom isHeadingStart isHeadingEnd 0 none events

/-- The spans of the code blocks. -/
def codeSpans (events : List Event) : List Span :=
  spansFrom isCodeStart isCodeEnd 0 none events

/-- The events from one position up to another. -/
def slice (events : List Event) (start stop : Nat) : List Event :=
  (events.drop start).take (stop - start)

/-- Puts other events in the place of those from one position up to another. -/
def splice (events : List Event) (start stop : Nat) (replacement : List Event) : List Event :=
  events.take start ++ replacement ++ events.drop stop

/-- The events strictly between a span's start and its end. -/
def Span.inner (span : Span) (events : List Event) : List Event :=
  slice events (span.start + 1) span.stop

end DocSite.Document
