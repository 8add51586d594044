import DocSite.Document.Stage
import DocSite.Proofs.Document.Segment

/-!
# Stages in one pass

Each stage changes the segments of a document one by one, and the outline lists what it finds in
them. So what a stage makes of an event or of a span does not depend on what stands around it.
-/

namespace DocSite.Document

/-! ## What becomes of a span -/

/-- What a heading becomes when it gets its slug. -/
def slugEvents (opening : Event) (inner : List Event) (closing : Event) : List Event :=
  match opening with
  | .start (.heading level _) =>
    .start (.heading level (some (slugify (headingText inner)))) :: inner ++ [closing]
  | _ => opening :: inner ++ [closing]

/-- What a heading becomes when it is linked to itself. -/
def linkEvents (opening : Event) (inner : List Event) (closing : Event) : List Event :=
  match opening with
  | .start (.heading _ (some id)) => opening :: linkContent id inner ++ [closing]
  | _ => opening :: inner ++ [closing]

/-- What a code block becomes when it is highlighted. -/
def highlightEvents (tools : Tools) (opening : Event) (inner : List Event) (closing : Event) :
    List Event :=
  match opening with
  | .start (.codeBlock (.fenced info)) =>
    match highlightBlock? tools info inner with
    | some markup => [.html markup]
    | none => .start (.codeBlock (.fenced [])) :: inner ++ [closing]
  | _ => opening :: inner ++ [closing]

/-- The entry of a heading in the outline, if it has one. -/
def listedHeading? (opening : Event) (inner : List Event) : Option Heading :=
  match opening with
  | .start (.heading level _) =>
    if 2 ≤ level.number && level.number ≤ 4 then
      let text := headingText inner
      some { level := level.number, text, id := slugify text }
    else none
  | _ => none

/-- What is so of the content of a heading and of all markup is so of the content as a link. -/
theorem forall_mem_linkContent {P : Event → Prop} (markup : ∀ written, P (.html written))
    {inner : List Event} (each : ∀ event ∈ inner, P event) (id : Text) :
    ∀ event ∈ linkContent id inner, P event := by
  intro event member
  simp only [linkContent, List.cons_append, List.mem_cons, List.mem_append, List.mem_filter,
    List.not_mem_nil, or_false] at member
  rcases member with rfl | ⟨member, _⟩ | rfl
  · exact markup _
  · exact each event member
  · exact markup _

/-! ## Events around a span -/

section Surroundings

variable (before : List Event) (opening : Event) (inner : List Event) (closing : Event)
  (after : List Event)

theorem slice_append_right (events : List Event) (start stop : Nat) :
    slice (before ++ events) (before.length + start) (before.length + stop) =
      slice events start stop := by
  have length : before.length + stop - (before.length + start) = stop - start := by omega
  rw [slice, slice, List.drop_length_add_append, length]

theorem splice_append_right (events : List Event) (start stop : Nat) (replacement : List Event) :
    splice (before ++ events) (before.length + start) (before.length + stop) replacement =
      before ++ splice events start stop replacement := by
  rw [splice, splice, List.take_length_add_append, List.drop_length_add_append]
  simp

theorem getElem?_opening :
    (before ++ (opening :: inner ++ [closing]) ++ after)[before.length]? = some opening := by
  simp

theorem inner_span :
    Span.inner ⟨before.length, before.length + inner.length + 1⟩
        (before ++ (opening :: inner ++ [closing]) ++ after) = inner := by
  rw [Span.inner, List.append_assoc, Nat.add_assoc, slice_append_right]
  simp [slice]

theorem splice_inner (replacement : List Event) :
    splice (before ++ (opening :: inner ++ [closing]) ++ after) (before.length + 1)
        (before.length + inner.length + 1) replacement =
      before ++ (opening :: replacement ++ [closing]) ++ after := by
  rw [List.append_assoc, Nat.add_assoc, splice_append_right]
  simp [splice]

theorem splice_span (replacement : List Event) :
    splice (before ++ (opening :: inner ++ [closing]) ++ after) before.length
        (before.length + inner.length + 1 + 1) replacement =
      before ++ replacement ++ after := by
  have spliced := splice_append_right before (opening :: inner ++ [closing] ++ after) 0
    (inner.length + 2) replacement
  rw [Nat.add_zero] at spliced
  rw [List.append_assoc, Nat.add_assoc, Nat.add_assoc, spliced]
  simp [splice]

theorem set_opening (replacement : Event) :
    (before ++ (opening :: inner ++ [closing]) ++ after).set before.length replacement =
      before ++ (replacement :: inner ++ [closing]) ++ after := by
  simp

/-! ## Stages at a position -/

private theorem slugSpan_local : Segment.Local slugSpan slugEvents := by
  intro before opening inner closing after
  unfold slugSpan setHeadingId slugEvents
  rw [getElem?_opening, inner_span]
  split
  · rename_i level id found
    obtain rfl := Option.some.inj found
    rw [set_opening]
  · rename_i other
    split
    · exact (other _ _ rfl).elim
    · rfl

private theorem linkSpan_local : Segment.Local linkSpan linkEvents := by
  intro before opening inner closing after
  unfold linkSpan linkEvents
  rw [getElem?_opening, inner_span]
  split
  · rename_i level id found
    obtain rfl := Option.some.inj found
    rw [splice_inner]
  · rename_i other
    split
    · exact (other _ _ rfl).elim
    · rfl

private theorem highlightSpan_local (tools : Tools) :
    Segment.Local (highlightSpan tools) (highlightEvents tools) := by
  intro before opening inner closing after
  unfold highlightSpan highlightEvents
  rw [getElem?_opening, inner_span]
  split
  · rename_i info found
    obtain rfl := Option.some.inj found
    cases highlighted : highlightBlock? tools info inner with
    | some markup => simp only [highlighted, splice_span]
    | none => simp only [highlighted, set_opening]
  · rename_i other
    split
    · exact (other _ rfl).elim
    · rfl

private theorem headingAt?_local (before : List Event) (opening : Event) (inner : List Event)
    (closing : Event) (after : List Event) :
    headingAt? (before ++ (opening :: inner ++ [closing]) ++ after)
        ⟨before.length, before.length + inner.length + 1⟩ = listedHeading? opening inner := by
  unfold headingAt? listedHeading?
  rw [getElem?_opening, inner_span]
  split
  · rename_i level id found
    obtain rfl := Option.some.inj found
    rfl
  · rename_i other
    split
    · exact (other _ _ rfl).elim
    · rfl

end Surroundings

/-! ## Stages as passes -/

theorem slugHeadings_eq (events : List Event) :
    slugHeadings events = Segment.pass isHeadingStart isHeadingEnd slugEvents events := by
  apply Segment.foldl_spansFrom slugSpan_local
  intro opening inner closing
  unfold slugEvents
  split <;> simp

theorem linkHeadings_eq (events : List Event) :
    linkHeadings events = Segment.pass isHeadingStart isHeadingEnd linkEvents events :=
  Segment.foldl_reverse_spansFrom linkSpan_local events

theorem highlightCode_eq (tools : Tools) (events : List Event) :
    highlightCode tools events =
      Segment.pass isCodeStart isCodeEnd (highlightEvents tools) events :=
  Segment.foldl_reverse_spansFrom (highlightSpan_local tools) events

theorem outline_eq (tools : Tools) (markdown : Text) :
    tools.outline markdown =
      Segment.gather isHeadingStart isHeadingEnd listedHeading? (tools.parse markdown) :=
  Segment.filterMap_spansFrom headingAt?_local (tools.parse markdown)

end DocSite.Document
