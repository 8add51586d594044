import DocSite.Document.Stage
import DocSite.Proofs.Document.CodeBlocks
import DocSite.Proofs.Document.HeadingLinks
import DocSite.Proofs.Document.Spans
import Mathlib.Data.List.Induction

/-!
# Positions in documents that change

The stages and the outline look up events by the positions of spans, and a stage goes on doing so
while it changes the document. Here they are written once more so that they fail where there is no
such position. They never do: a span that has been changed leaves all events before it where they
are, so going from the last span to the first is safe, and so is any order if no event is added or
removed.
-/

namespace DocSite.Document

/-! ## Lookups that may fail -/

/-- The events from one position up to another, if both are positions of the document and in
order. -/
def slice? (events : List Event) (start stop : Nat) : Option (List Event) :=
  if start ≤ stop ∧ stop ≤ events.length then some (slice events start stop) else none

/-- Puts other events in the place of those from one position up to another, if both are positions
of the document and in order. -/
def splice? (events : List Event) (start stop : Nat) (replacement : List Event) :
    Option (List Event) :=
  if start ≤ stop ∧ stop ≤ events.length then some (splice events start stop replacement) else none

namespace Checked

/-- The entry of the heading with the given span, if the outline has one. -/
def headingAt (events : List Event) (span : Span) : Option (Option Heading) := do
  match ← events[span.start]? with
  | .start (.heading level _) =>
    if 2 ≤ level.number && level.number ≤ 4 then
      let text := headingText (← slice? events (span.start + 1) span.stop)
      some (some { level := level.number, text, id := slugify text })
    else some none
  | _ => some none

/-- The outline of a document. -/
def outline (events : List Event) : Option (List Heading) := do
  let entries ← (headingSpans events).mapM (headingAt events)
  some (entries.filterMap id)

/-- Gives the heading with the given span the slug of its text. -/
def slugSpan (events : List Event) (span : Span) : Option (List Event) := do
  let id := slugify (headingText (← slice? events (span.start + 1) span.stop))
  match ← events[span.start]? with
  | .start (.heading level _) =>
    some (events.set span.start (.start (.heading level (some id))))
  | _ => some events

/-- Makes the heading with the given span a link to itself if it has an id: its content is taken
out, and then the link is put in where it was. -/
def linkSpan (events : List Event) (span : Span) : Option (List Event) := do
  match ← events[span.start]? with
  | .start (.heading _ (some id)) =>
    let inner ← slice? events (span.start + 1) span.stop
    let emptied ← splice? events (span.start + 1) span.stop []
    splice? emptied (span.start + 1) (span.start + 1) (linkContent id inner)
  | _ => some events

/-- The markup of a code block that is given from its start on, if its language is known. -/
def highlightBlock (tools : Tools) (block : List Event) : Option (Option Text) :=
  match block.head? with
  | some (.start (.codeBlock (.fenced info))) => do
    let inner ← slice? block 1 block.length
    some (highlightBlock? tools info inner)
  | _ => some none

/-- Highlights the code block with the given span, or forgets its language if that is not
known. -/
def highlightSpan (tools : Tools) (events : List Event) (span : Span) : Option (List Event) := do
  let block ← slice? events span.start span.stop
  match ← highlightBlock tools block with
  | some markup => splice? events span.start (span.stop + 1) [.html markup]
  | none =>
    match ← events[span.start]? with
    | .start (.codeBlock (.fenced _)) =>
      some (events.set span.start (.start (.codeBlock (.fenced []))))
    | _ => some events

/-- Runs a stage with some tools. -/
def run (tools : Tools) (events : List Event) : Stage → Option (List Event)
  | .slugHeadings => (headingSpans events).foldlM slugSpan events
  | .linkHeadings => (headingSpans events).reverse.foldlM linkSpan events
  | .highlightCode => (codeSpans events).reverse.foldlM (highlightSpan tools) events

/-- Runs stages one after the other with some tools. -/
def runAll (tools : Tools) (stages : List Stage) (events : List Event) : Option (List Event) :=
  stages.foldlM (run tools) events

end Checked

variable {events : List Event} {span : Span} {start stop : Nat}

theorem slice?_eq (inOrder : start ≤ stop) (inside : stop ≤ events.length) :
    slice? events start stop = some (slice events start stop) :=
  if_pos ⟨inOrder, inside⟩

theorem splice?_eq (inOrder : start ≤ stop) (inside : stop ≤ events.length)
    (replacement : List Event) :
    splice? events start stop replacement = some (splice events start stop replacement) :=
  if_pos ⟨inOrder, inside⟩

theorem le_length_splice (inside : start ≤ events.length) (replacement : List Event) :
    start ≤ (splice events start stop replacement).length := by
  simp [splice]
  omega

/-- Taking events out and then putting others in is one replacement. -/
theorem bind_splice? (inOrder : start ≤ stop) (inside : stop ≤ events.length)
    (replacement : List Event) :
    ((splice? events start stop []).bind fun emptied =>
      splice? emptied start start replacement) =
        some (splice events start stop replacement) := by
  have room : start ≤ events.length := Nat.le_trans inOrder inside
  have front : (events.take start).length = start := by simp [room]
  rw [splice?_eq inOrder inside, Option.bind_some,
    splice?_eq (Nat.le_refl _) (le_length_splice room [])]
  simp [splice, front]

theorem Span.Inside.exists_opening (inside : span.Inside events) :
    ∃ opening, events[span.start]? = some opening :=
  ⟨_, List.getElem?_eq_getElem (Nat.lt_trans inside.1 inside.2)⟩

theorem Span.Inside.slice?_inner (inside : span.Inside events) :
    slice? events (span.start + 1) span.stop = some (span.inner events) :=
  slice?_eq inside.1 (Nat.le_of_lt inside.2)

theorem Span.Inside.slice_eq_cons (inside : span.Inside events) {opening : Event}
    (found : events[span.start]? = some opening) :
    slice events span.start span.stop = opening :: span.inner events := by
  obtain ⟨there, rfl⟩ := List.getElem?_eq_some_iff.mp found
  have length : span.stop - span.start = span.stop - (span.start + 1) + 1 := by
    have inOrder := inside.1
    omega
  rw [slice, Span.inner, slice, List.drop_eq_getElem_cons there, length, List.take_succ_cons]

namespace Checked

theorem headingAt_eq (inside : span.Inside events) :
    headingAt events span = some (headingAt? events span) := by
  obtain ⟨opening, found⟩ := inside.exists_opening
  unfold headingAt headingAt?
  rw [found, inside.slice?_inner]
  simp only [Option.bind_eq_bind, Option.bind_some]
  split
  · split <;> simp_all
  · rename_i other
    split
    · rename_i same
      exact (other _ _ (Option.some.inj same)).elim
    · rfl

theorem slugSpan_eq (inside : span.Inside events) :
    slugSpan events span = some (Document.slugSpan events span) := by
  obtain ⟨opening, found⟩ := inside.exists_opening
  unfold slugSpan Document.slugSpan setHeadingId
  rw [found, inside.slice?_inner]
  simp only [Option.bind_eq_bind, Option.bind_some]
  split
  · rfl
  · rename_i other
    split
    · rename_i same
      exact (other _ _ (Option.some.inj same)).elim
    · rfl

theorem linkSpan_eq (inside : span.Inside events) :
    linkSpan events span = some (Document.linkSpan events span) := by
  obtain ⟨opening, found⟩ := inside.exists_opening
  unfold linkSpan Document.linkSpan
  rw [found, inside.slice?_inner]
  simp only [Option.bind_eq_bind, Option.bind_some]
  split
  · exact bind_splice? inside.1 (Nat.le_of_lt inside.2) _
  · rename_i other
    split
    · rename_i same
      exact (other _ _ (Option.some.inj same)).elim
    · rfl

theorem highlightBlock_cons (tools : Tools) (info : Text) (inner : List Event) :
    highlightBlock tools (.start (.codeBlock (.fenced info)) :: inner) =
      some (highlightBlock? tools info inner) := by
  simp [highlightBlock, slice?, slice]

theorem highlightSpan_eq (tools : Tools) (inside : span.Inside events) :
    highlightSpan tools events span = some (Document.highlightSpan tools events span) := by
  obtain ⟨opening, found⟩ := inside.exists_opening
  unfold highlightSpan Document.highlightSpan
  rw [slice?_eq (Nat.le_of_lt inside.1) (Nat.le_of_lt inside.2), inside.slice_eq_cons found, found]
  simp only [Option.bind_eq_bind, Option.bind_some]
  split
  · rename_i info
    rw [highlightBlock_cons, Option.bind_some]
    cases highlighted : highlightBlock? tools info (span.inner events) with
    | some markup =>
        have room : span.start ≤ span.stop + 1 := Nat.le_succ_of_le (Nat.le_of_lt inside.1)
        simp [highlighted, splice?_eq room inside.2]
    | none => simp [highlighted]
  · rename_i other
    have unknown : highlightBlock tools (opening :: span.inner events) = some none := by
      unfold highlightBlock
      split
      · rename_i same
        exact (other _ (Option.some.inj same)).elim
      · rfl
    rw [unknown, Option.bind_some]
    dsimp only
    split
    · rename_i same
      exact (other _ (Option.some.inj same)).elim
    · rfl

end Checked

/-! ## Positions that stay -/

theorem length_slugSpan (events : List Event) (span : Span) :
    (slugSpan events span).length = events.length := by
  unfold slugSpan setHeadingId
  split
  · exact List.length_set
  · rfl

/-- All events before the span of a heading are still there when it has been linked. -/
theorem le_length_linkSpan (inside : span.Inside events) :
    span.start ≤ (linkSpan events span).length := by
  have room : span.start + 1 ≤ events.length := Nat.le_trans inside.1 (Nat.le_of_lt inside.2)
  unfold linkSpan
  split
  · exact Nat.le_of_succ_le (le_length_splice room _)
  · exact Nat.le_of_succ_le room

/-- All events before the span of a code block are still there when it has been highlighted. -/
theorem le_length_highlightSpan (tools : Tools) (inside : span.Inside events) :
    span.start ≤ (highlightSpan tools events span).length := by
  have room : span.start ≤ events.length := Nat.le_of_lt (Nat.lt_trans inside.1 inside.2)
  unfold highlightSpan
  split
  · split
    · exact le_length_splice room _
    · rw [List.length_set]
      exact room
  · exact room

section Runs

variable {checked : List Event → Span → Option (List Event)}
  {change : List Event → Span → List Event} {spans : List Span}
  (same : ∀ {events span}, span.Inside events → checked events span = some (change events span))
include same

/-- If no change adds or removes events, the spans can be gone through from the first one on. -/
theorem foldlM_eq_foldl (keeps : ∀ events span, (change events span).length = events.length)
    (inside : ∀ span ∈ spans, span.Inside events) :
    spans.foldlM checked events = some (spans.foldl change events) := by
  induction spans generalizing events with
  | nil => rfl
  | cons span spans induction =>
      rw [List.forall_mem_cons] at inside
      have later : ∀ span' ∈ spans, span'.Inside (change events span) := fun span' member =>
        ⟨(inside.2 span' member).1, keeps events span ▸ (inside.2 span' member).2⟩
      rw [List.foldlM_cons, same inside.1, Option.bind_eq_bind, Option.bind_some, induction later]
      rfl

/-- If every change leaves the events before its span, the spans can be gone through from the last
one back: those that are still to come end before it begins. -/
theorem foldlM_reverse_eq_foldl
    (keeps : ∀ {events span}, span.Inside events → span.start ≤ (change events span).length)
    (apart : spans.Pairwise fun left right => left.stop < right.start)
    (inside : ∀ span ∈ spans, span.Inside events) :
    spans.reverse.foldlM checked events = some (spans.reverse.foldl change events) := by
  induction spans using List.reverseRec generalizing events with
  | nil => rfl
  | append_singleton spans last induction =>
      obtain ⟨inOrder, -, before⟩ := List.pairwise_append.mp apart
      have atLast : last.Inside events := inside last (by simp)
      have earlier : ∀ span ∈ spans, span.Inside (change events last) := fun span member =>
        ⟨(inside span (List.mem_append_left _ member)).1,
          Nat.lt_of_lt_of_le (before span member last (by simp)) (keeps atLast)⟩
      rw [List.reverse_concat, List.foldlM_cons, same atLast, Option.bind_eq_bind,
        Option.bind_some, induction inOrder earlier]
      rfl

end Runs

/-! ## Stages and outlines -/

theorem locates_headingSpans (events : List Event) :
    Locates isHeadingStart isHeadingEnd events (headingSpans events) :=
  locates_spansFrom (fun _ => isHeadingStart_of_isHeadingEnd) events

theorem locates_codeSpans (events : List Event) :
    Locates isCodeStart isCodeEnd events (codeSpans events) :=
  locates_spansFrom (fun _ => isCodeStart_of_isCodeEnd) events

namespace Checked

theorem outline_eq (events : List Event) :
    outline events = some ((headingSpans events).filterMap (headingAt? events)) := by
  have entries : ∀ spans : List Span, (∀ span ∈ spans, span.Inside events) →
      spans.mapM (headingAt events) = some (spans.map (headingAt? events)) := by
    intro spans inside
    induction spans with
    | nil => rfl
    | cons span spans induction =>
        rw [List.forall_mem_cons] at inside
        rw [List.mapM_cons, headingAt_eq inside.1, induction inside.2]
        rfl
  rw [outline, entries _ (locates_headingSpans events).inside, Option.bind_eq_bind,
    Option.bind_some, List.filterMap_map]
  rfl

theorem run_eq (tools : Tools) (events : List Event) (stage : Stage) :
    run tools events stage = some (stage.run tools events) := by
  have headings := locates_headingSpans events
  have blocks := locates_codeSpans events
  cases stage with
  | slugHeadings => exact foldlM_eq_foldl slugSpan_eq length_slugSpan headings.inside
  | linkHeadings =>
      exact foldlM_reverse_eq_foldl linkSpan_eq le_length_linkSpan headings.apart headings.inside
  | highlightCode =>
      exact foldlM_reverse_eq_foldl (highlightSpan_eq tools) (le_length_highlightSpan tools)
        blocks.apart blocks.inside

-- From the first block on, the second one would not be where it was any more.
example :
    let tools : Tools := { Tools.standard with highlight? := fun code _ => some code }
    let block : List Event :=
      [.start (.codeBlock (.fenced "sql")), .text "SELECT", .finish .codeBlock]
    (codeSpans (block ++ block)).foldlM (highlightSpan tools) (block ++ block) = none := by
  decide +kernel

theorem runAll_eq (tools : Tools) (stages : List Stage) (events : List Event) :
    runAll tools stages events = some (Stage.runAll tools stages events) := by
  induction stages generalizing events with
  | nil => rfl
  | cons stage stages induction =>
      rw [runAll, List.foldlM_cons, run_eq, Option.bind_eq_bind, Option.bind_some]
      exact induction _

end Checked

/-- The spans of the headings and of the code blocks of any document are those that go from a start
to the end that it waits for, one behind the other, and all of them if starts and ends take turns.
Whatever the stages and the outline look up by them is there, also while stages change the
document. -/
theorem located_spans_stay_inside (tools : Tools) (events : List Event) :
    Locates isHeadingStart isHeadingEnd events (headingSpans events) ∧
      Locates isCodeStart isCodeEnd events (codeSpans events) ∧
      (∀ stages, Checked.runAll tools stages events = some (Stage.runAll tools stages events)) ∧
      ∀ markdown, Checked.outline (tools.parse markdown) = some (tools.outline markdown) :=
  ⟨locates_headingSpans events, locates_codeSpans events,
    fun stages => Checked.runAll_eq tools stages events,
    fun markdown => Checked.outline_eq (tools.parse markdown)⟩

/-- Two headings with a code block between them: each start and each end belongs to one span. -/
theorem located_spans_stay_inside_two_headings :
    let events : List Event := [.start (.heading .h2 none), .text "Setup", .finish (.heading .h2),
      .start (.codeBlock (.fenced "sql")), .text "SELECT", .finish .codeBlock,
      .start (.heading .h3 none), .finish (.heading .h3)]
    headingSpans events = [⟨0, 2⟩, ⟨6, 7⟩] ∧ codeSpans events = [⟨3, 5⟩] ∧
      (∃! span, span ∈ headingSpans events ∧ (span.start = 7 ∨ span.stop = 7)) ∧
      (∃! span, span ∈ codeSpans events ∧ (span.start = 3 ∨ span.stop = 3)) ∧
      Checked.runAll .standard Stage.standard events =
        some (Stage.runAll .standard Stage.standard events) := by
  intro events
  obtain ⟨headings, blocks, runs, -⟩ := located_spans_stay_inside .standard events
  have headingTurns : TakeTurns isHeadingStart isHeadingEnd events :=
    .pair rfl rfl (.pair rfl rfl .nil)
  have blockTurns : TakeTurns isCodeStart isCodeEnd events := .pair rfl rfl .nil
  exact ⟨rfl, rfl, headings.once headingTurns 7 _ rfl (.inr rfl),
    blocks.once blockTurns 3 _ rfl (.inl rfl), runs Stage.standard⟩

end DocSite.Document
