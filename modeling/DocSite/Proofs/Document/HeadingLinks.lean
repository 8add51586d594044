import DocSite.Proofs.Document.Pass
import DocSite.Proofs.Document.Rewriting

/-!
# Headings as links to themselves

Linking goes through the headings from the last one to the first and changes the document at the
positions where they were found. What it comes to is a rewriting: the content of each heading that
has an id is put into a link, the links in it go, and nothing else is touched. No heading gets
another text by that.
-/

namespace DocSite.Document

/-- What a heading becomes, written out. -/
def linkedHeading (opening : Event) (inner : List Event) (closing : Event) : List Event :=
  match opening with
  | .start (.heading level (some id)) =>
    [.start (.heading level (some id)),
        .html ("<a href=\"#".toList ++ Html.escape id ++ "\">".toList)] ++
      inner.filter (fun event => !isLink event) ++ [.html "</a>".toList, closing]
  | _ => opening :: inner ++ [closing]

/-- The headings of a document, each with its start and its text. -/
def headingTexts (events : List Event) : List (Option Event × Text) :=
  (headingSpans events).map fun span => (events[span.start]?, headingText (span.inner events))

/-! ## Links -/

theorem write_headingLink (id : Text) :
    (Html.Piece.startTag "a" [.of "href" ('#' :: id)]).write =
      "<a href=\"#".toList ++ Html.escape id ++ "\">".toList := by
  simp [Html.Piece.write, Html.Attribute.write, Html.Attribute.of, Html.escape, Html.escapeChar]

/-- A heading without an id stays as it is. -/
theorem linkedHeading_of_no_id {opening : Event}
    (other : ∀ level id, opening = .start (.heading level (some id)) → False)
    (inner : List Event) (closing : Event) :
    linkedHeading opening inner closing = opening :: inner ++ [closing] := by
  unfold linkedHeading
  split
  · exact (other _ _ rfl).elim
  · rfl

theorem linkEvents_eq : linkEvents = linkedHeading := by
  funext opening inner closing
  unfold linkEvents
  split
  · simp only [linkContent, write_headingLink, linkedHeading]
    simp [Html.Piece.write]
  · rename_i other
    exact (linkedHeading_of_no_id other inner closing).symm

theorem isHeadingStart_of_isHeadingEnd {event : Event} (ends : isHeadingEnd event = true) :
    isHeadingStart event = false := by
  cases event with
  | start tag => simp [isHeadingEnd] at ends
  | _ => rfl

/-! ## Texts of headings -/

/-- Neither the start nor the end of a link adds to the text of a heading. -/
theorem headingText_filter_links (inner : List Event) :
    headingText (inner.filter fun event => !isLink event) = headingText inner := by
  induction inner with
  | nil => rfl
  | cons event inner induction =>
      rw [headingText] at induction ⊢
      cases link : isLink event with
      | false => simpa [link, headingText] using induction
      | true =>
          have silent : headingTextOf event = [] := by
            unfold isLink at link
            split at link <;> first | rfl | contradiction
          simpa [link, headingText, silent] using induction

theorem headingText_linkContent (id : Text) (inner : List Event) :
    headingText (linkContent id inner) = headingText inner := by
  have kept := headingText_filter_links inner
  rw [headingText] at kept
  simp [linkContent, headingText, headingTextOf, kept]

theorem headingTexts_eq (events : List Event) :
    headingTexts events =
      Segment.gather isHeadingStart isHeadingEnd
        (fun opening inner => some (some opening, headingText inner)) events := by
  let headingAt := fun (events : List Event) (span : Span) =>
    some (events[span.start]?, headingText (span.inner events))
  have isLocal : ∀ before opening inner closing after,
      headingAt (before ++ (opening :: inner ++ [closing]) ++ after)
        ⟨before.length, before.length + inner.length + 1⟩ =
      some (some opening, headingText inner) := by
    intro before opening inner closing after
    simp only [headingAt, getElem?_opening, inner_span]
  rw [headingTexts, headingSpans, ← List.filterMap_eq_map]
  exact Segment.filterMap_spansFrom isLocal events

/-! ## One pass -/

/-- Linking headings to themselves is rewriting them, and each of them keeps its text. -/
theorem linkHeadings_in_one_pass (events : List Event) :
    (∀ result, Rewritten isHeadingStart isHeadingEnd linkedHeading events result ↔
        result = linkHeadings events) ∧
      headingTexts (linkHeadings events) = headingTexts events := by
  have apart : ∀ event, isHeadingEnd event = true → isHeadingStart event = false :=
    fun _ => isHeadingStart_of_isHeadingEnd
  have onePass : linkHeadings events =
      Segment.pass isHeadingStart isHeadingEnd linkedHeading events := by
    rw [linkHeadings_eq, linkEvents_eq]
  have rewritten : Rewritten isHeadingStart isHeadingEnd linkedHeading events
      (linkHeadings events) := onePass ▸ .of_pass apart events
  refine ⟨fun result => ?_, ?_⟩
  · rw [Rewritten.iff_eq_pass apart, onePass]
  · rw [headingTexts_eq, headingTexts_eq]
    refine rewritten.gather_eq apart fun opening inner closing isSpan => ?_
    rw [← linkEvents_eq]
    unfold linkEvents
    split
    · rename_i level id
      refine ⟨_, linkContent id inner, closing, rfl, ⟨rfl, ?_, isSpan.closes⟩, ?_⟩
      · exact forall_mem_linkContent (fun _ => ⟨rfl, rfl⟩) isSpan.within id
      · rw [headingText_linkContent]
    · exact ⟨opening, inner, closing, rfl, isSpan, rfl⟩

-- A start that is followed by another one, a heading that holds a link, and an end too many.
example :
    let title := Event.start (.heading .h2 (some "a&b"))
    linkHeadings [title, title, .start (.link "q" []), .text "q", .finish .link,
        .finish (.heading .h2), .finish (.heading .h2)] =
      [title, title, .html "<a href=\"#a&amp;b\">", .text "q", .html "</a>",
        .finish (.heading .h2), .finish (.heading .h2)] := by
  decide +kernel

end DocSite.Document
