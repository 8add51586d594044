import DocSite.Document.Span

/-!
# Documents in segments

The spans of a document cut it into segments: those from a start to the end that closes it, and
single events outside of them. A change that is made to one span after the other is a change that
is made to each segment by itself. That is so from the back to the front, where a change may be of
any length, and from the front to the back, where it may not.
-/

namespace DocSite.Document

/-! ## Segments -/

/-- A part of a document, with regard to certain starts and ends. -/
inductive Segment
  /-- An event outside of all spans. -/
  | single (event : Event)
  /-- A start, the events behind it, and the end that closes it. -/
  | span (opening : Event) (inner : List Event) (closing : Event)

namespace Segment

/-- The events that a change of spans leaves. -/
def rewrite (change : (opening : Event) → (inner : List Event) → (closing : Event) → List Event) :
    Segment → List Event
  | single event => [event]
  | span opening inner closing => change opening inner closing

/-- The events of a segment. -/
def events : Segment → List Event :=
  rewrite fun opening inner closing => opening :: inner ++ [closing]

/-- What is known of a span. -/
def collect {α : Type} (known? : (opening : Event) → (inner : List Event) → Option α) :
    Segment → Option α
  | single _ => none
  | span opening inner _ => known? opening inner

/-- Where the spans of some segments are, if the first segment is at a position. -/
def positions : (position : Nat) → List Segment → List Span
  | _, [] => []
  | position, single _ :: rest => positions (position + 1) rest
  | position, span _ inner _ :: rest =>
    ⟨position, position + inner.length + 1⟩ :: positions (position + inner.length + 2) rest

/-- A start that no end closes, and the events behind it. -/
def unclosed : (opened : Option (Event × List Event)) → List Segment
  | none => []
  | some (opening, inner) => single opening :: inner.map single

/-- Cuts a document into segments, behind a start and some events that wait for an end. A start is
forgotten when another one follows it. -/
def cutFrom (isStart isEnd : Event → Bool) :
    (opened : Option (Event × List Event)) → List Event → List Segment
  | opened, [] => unclosed opened
  | opened, event :: rest =>
    if isStart event then unclosed opened ++ cutFrom isStart isEnd (some (event, [])) rest
    else
      match opened, isEnd event with
      | none, _ => single event :: cutFrom isStart isEnd none rest
      | some (opening, inner), true =>
        span opening inner event :: cutFrom isStart isEnd none rest
      | some (opening, inner), false =>
        cutFrom isStart isEnd (some (opening, inner ++ [event])) rest

/-- Cuts a document into segments. -/
def cut (isStart isEnd : Event → Bool) (events : List Event) : List Segment :=
  cutFrom isStart isEnd none events

/-! ## Cutting -/

variable {isStart isEnd : Event → Bool}

@[simp] theorem events_single (event : Event) : (single event).events = [event] :=
  rfl

@[simp] theorem events_span (opening : Event) (inner : List Event) (closing : Event) :
    (span opening inner closing).events = opening :: inner ++ [closing] :=
  rfl

theorem flatMap_events_unclosed (opening : Event) (inner : List Event) :
    (unclosed (some (opening, inner))).flatMap events = opening :: inner := by
  have alone : (inner.map single).flatMap events = inner := by
    induction inner with
    | nil => rfl
    | cons event inner induction => simpa using induction
  simpa [unclosed] using alone

private theorem flatMap_events_cutFrom (opened : Option (Event × List Event))
    (document : List Event) :
    (cutFrom isStart isEnd opened document).flatMap events =
      (unclosed opened).flatMap events ++ document := by
  induction document generalizing opened with
  | nil => simp [cutFrom]
  | cons event document induction =>
      unfold cutFrom
      split
      · simp [induction, flatMap_events_unclosed]
      · split
        · simp [induction, unclosed]
        · rw [flatMap_events_unclosed]
          simp [induction, unclosed]
        · rw [induction, flatMap_events_unclosed, flatMap_events_unclosed]
          simp

/-- Nothing is lost when a document is cut. -/
theorem flatMap_events_cut (document : List Event) :
    (cut isStart isEnd document).flatMap events = document :=
  flatMap_events_cutFrom none document

theorem positions_unclosed (position : Nat) (opened : Option (Event × List Event))
    (segments : List Segment) :
    positions position (unclosed opened ++ segments) =
      positions (position + (unclosed opened).length) segments := by
  have alone : ∀ (inner : List Event) (position : Nat),
      positions position (inner.map single ++ segments) =
        positions (position + inner.length) segments := by
    intro inner
    induction inner with
    | nil => simp
    | cons event inner induction =>
        intro position
        rw [List.map_cons, List.cons_append, positions, induction, List.length_cons,
          Nat.add_assoc, Nat.add_comm 1]
  cases opened with
  | none => simp [unclosed]
  | some pair =>
      obtain ⟨opening, inner⟩ := pair
      rw [unclosed, List.cons_append, positions, alone, List.length_cons, List.length_map,
        Nat.add_assoc, Nat.add_comm 1]

-- The position of an opened start is behind by the start and the events since, so both cases are
-- proved at once.
private theorem spansFrom_eq_positions (document : List Event) :
    (∀ position, spansFrom isStart isEnd position none document =
      positions position (cutFrom isStart isEnd none document)) ∧
    ∀ (start : Nat) (opening : Event) (inner : List Event),
      spansFrom isStart isEnd (start + inner.length + 1) (some start) document =
        positions start (cutFrom isStart isEnd (some (opening, inner)) document) := by
  induction document with
  | nil =>
      refine ⟨fun position => rfl, fun start opening inner => ?_⟩
      have none := positions_unclosed start (some (opening, inner)) []
      rw [List.append_nil] at none
      simp [spansFrom, cutFrom, none, positions]
  | cons event document induction =>
      obtain ⟨closed, opened⟩ := induction
      cases starts : isStart event with
      | true =>
          have restart : ∀ position, spansFrom isStart isEnd (position + 1) (some position)
              document = positions position (cutFrom isStart isEnd (some (event, [])) document) :=
            fun position => opened position event []
          refine ⟨fun position => ?_, fun start opening inner => ?_⟩
          · simpa [spansFrom, cutFrom, starts, unclosed] using restart position
          · have forgotten := positions_unclosed start (some (opening, inner))
              (cutFrom isStart isEnd (some (event, [])) document)
            have length : (unclosed (some (opening, inner))).length = inner.length + 1 := by
              simp [unclosed]
            rw [length, ← Nat.add_assoc] at forgotten
            simp [spansFrom, cutFrom, starts, forgotten, restart]
      | false =>
          refine ⟨fun position => ?_, fun start opening inner => ?_⟩
          · cases ends : isEnd event <;>
              simp [spansFrom, cutFrom, starts, ends, positions, closed]
          · cases ends : isEnd event with
            | true => simp [spansFrom, cutFrom, starts, ends, positions, closed]
            | false =>
                have longer := opened start opening (inner ++ [event])
                rw [List.length_append, List.length_singleton, ← Nat.add_assoc] at longer
                simp [spansFrom, cutFrom, starts, ends, longer]

/-- The spans of a document are those of its segments. -/
theorem spansFrom_none (document : List Event) :
    spansFrom isStart isEnd 0 none document = positions 0 (cut isStart isEnd document) :=
  (spansFrom_eq_positions document).1 0

theorem cut_append {left : List Event} (other : ∀ event ∈ left, isStart event = false)
    (right : List Event) :
    cut isStart isEnd (left ++ right) = left.map single ++ cut isStart isEnd right := by
  induction left with
  | nil => rfl
  | cons event left induction =>
      simp only [List.mem_cons, forall_eq_or_imp] at other
      simpa [cut, cutFrom, other.1] using induction other.2

private theorem cutFrom_inner (opening : Event) (before : List Event) {inner : List Event}
    (within : ∀ event ∈ inner, isStart event = false ∧ isEnd event = false)
    (rest : List Event) :
    cutFrom isStart isEnd (some (opening, before)) (inner ++ rest) =
      cutFrom isStart isEnd (some (opening, before ++ inner)) rest := by
  induction inner generalizing before with
  | nil => simp
  | cons event inner induction =>
      simp only [List.mem_cons, forall_eq_or_imp] at within
      simpa [cutFrom, within.1] using induction (before ++ [event]) within.2

theorem cut_span {opening closing : Event} {inner : List Event}
    (starts : isStart opening = true)
    (within : ∀ event ∈ inner, isStart event = false ∧ isEnd event = false)
    (ends : isEnd closing = true) (other : isStart closing = false) (rest : List Event) :
    cut isStart isEnd (opening :: inner ++ [closing] ++ rest) =
      span opening inner closing :: cut isStart isEnd rest := by
  have reached : cutFrom isStart isEnd (some (opening, [])) (inner ++ closing :: rest) =
      cutFrom isStart isEnd (some (opening, inner)) (closing :: rest) :=
    cutFrom_inner opening [] within (closing :: rest)
  simp [cut, cutFrom, starts, unclosed, reached, ends, other]

/-! ## Changes of spans -/

variable {apply : List Event → Span → List Event}
  {change : (opening : Event) → (inner : List Event) → (closing : Event) → List Event}

/-- What is done to a document at a span concerns only the events of the span. -/
def Local (apply : List Event → Span → List Event)
    (change : (opening : Event) → (inner : List Event) → (closing : Event) → List Event) : Prop :=
  ∀ before opening inner closing after,
    apply (before ++ (opening :: inner ++ [closing]) ++ after)
        ⟨before.length, before.length + inner.length + 1⟩ =
      before ++ change opening inner closing ++ after

private theorem length_append_span (before : List Event) (opening : Event) (inner : List Event)
    (closing : Event) :
    (before ++ (opening :: inner ++ [closing])).length = before.length + inner.length + 2 := by
  simp
  omega

private theorem foldl_reverse_positions (isLocal : Local apply change) (before : List Event)
    (segments : List Segment) :
    (positions before.length segments).reverse.foldl apply
        (before ++ segments.flatMap events) =
      before ++ segments.flatMap (rewrite change) := by
  induction segments generalizing before with
  | nil => rfl
  | cons segment segments induction =>
      cases segment with
      | single event => simpa [positions, rewrite] using induction (before ++ [event])
      | span opening inner closing =>
          -- The spans behind this one have been changed, which moved nothing before them.
          have later := induction (before ++ (opening :: inner ++ [closing]))
          rw [length_append_span] at later
          rw [positions, List.reverse_cons, List.foldl_append, List.flatMap_cons, events_span,
            ← List.append_assoc, later, List.foldl_cons, List.foldl_nil, isLocal]
          simp [rewrite]

/-- Changes all spans of a document in one pass. -/
def pass (isStart isEnd : Event → Bool)
    (change : (opening : Event) → (inner : List Event) → (closing : Event) → List Event)
    (document : List Event) : List Event :=
  (cut isStart isEnd document).flatMap (rewrite change)

/-- Changing the spans of a document from the last one to the first takes one pass. -/
theorem foldl_reverse_spansFrom (isLocal : Local apply change) (document : List Event) :
    (spansFrom isStart isEnd 0 none document).reverse.foldl apply document =
      pass isStart isEnd change document := by
  have changed := foldl_reverse_positions isLocal [] (cut isStart isEnd document)
  rw [List.nil_append, flatMap_events_cut] at changed
  rw [spansFrom_none]
  exact changed

private theorem foldl_positions (isLocal : Local apply change)
    (sameLength : ∀ opening inner closing,
      (change opening inner closing).length = inner.length + 2)
    (before : List Event) (segments : List Segment) :
    (positions before.length segments).foldl apply (before ++ segments.flatMap events) =
      before ++ segments.flatMap (rewrite change) := by
  induction segments generalizing before with
  | nil => rfl
  | cons segment segments induction =>
      cases segment with
      | single event => simpa [positions, rewrite] using induction (before ++ [event])
      | span opening inner closing =>
          -- What is left of this span is as long as it was, so the others are where they were.
          have later := induction (before ++ change opening inner closing)
          rw [List.length_append, sameLength, ← Nat.add_assoc] at later
          rw [positions, List.foldl_cons, List.flatMap_cons, events_span, ← List.append_assoc,
            isLocal, later]
          simp [rewrite]

/-- So does changing them from the first one to the last, if the positions stay right. -/
theorem foldl_spansFrom (isLocal : Local apply change)
    (sameLength : ∀ opening inner closing,
      (change opening inner closing).length = inner.length + 2) (document : List Event) :
    (spansFrom isStart isEnd 0 none document).foldl apply document =
      pass isStart isEnd change document := by
  have changed := foldl_positions isLocal sameLength [] (cut isStart isEnd document)
  rw [List.nil_append, flatMap_events_cut] at changed
  rw [spansFrom_none]
  exact changed

theorem pass_append {left : List Event} (other : ∀ event ∈ left, isStart event = false)
    (right : List Event) :
    pass isStart isEnd change (left ++ right) = left ++ pass isStart isEnd change right := by
  rw [pass, cut_append other]
  have alone : (left.map single).flatMap (rewrite change) = left := by
    induction left with
    | nil => rfl
    | cons event left induction =>
        simp only [List.mem_cons, forall_eq_or_imp] at other
        simpa [rewrite] using induction other.2
  simp [pass, alone]

theorem pass_span {opening closing : Event} {inner : List Event} (starts : isStart opening = true)
    (within : ∀ event ∈ inner, isStart event = false ∧ isEnd event = false)
    (ends : isEnd closing = true) (other : isStart closing = false) (rest : List Event) :
    pass isStart isEnd change (opening :: inner ++ [closing] ++ rest) =
      change opening inner closing ++ pass isStart isEnd change rest := by
  rw [pass, cut_span starts within ends other, List.flatMap_cons]
  rfl

/-! ## What is known of spans -/

private theorem filterMap_positions {α : Type} {at? : List Event → Span → Option α}
    {known? : (opening : Event) → (inner : List Event) → Option α}
    (isLocal : ∀ before opening inner closing after,
      at? (before ++ (opening :: inner ++ [closing]) ++ after)
        ⟨before.length, before.length + inner.length + 1⟩ = known? opening inner)
    (before : List Event) (segments : List Segment) :
    (positions before.length segments).filterMap (at? (before ++ segments.flatMap events)) =
      segments.filterMap (collect known?) := by
  induction segments generalizing before with
  | nil => rfl
  | cons segment segments induction =>
      cases segment with
      | single event =>
          simpa [positions, collect, List.filterMap_cons] using induction (before ++ [event])
      | span opening inner closing =>
          have later := induction (before ++ (opening :: inner ++ [closing]))
          rw [length_append_span] at later
          rw [positions, List.filterMap_cons, List.flatMap_cons, events_span,
            ← List.append_assoc, isLocal, later]
          rfl

/-- Collects in one pass what is known of the spans of a document. -/
def gather {α : Type} (isStart isEnd : Event → Bool)
    (known? : (opening : Event) → (inner : List Event) → Option α) (document : List Event) :
    List α :=
  (cut isStart isEnd document).filterMap (collect known?)

theorem filterMap_spansFrom {α : Type} {at? : List Event → Span → Option α}
    {known? : (opening : Event) → (inner : List Event) → Option α}
    (isLocal : ∀ before opening inner closing after,
      at? (before ++ (opening :: inner ++ [closing]) ++ after)
        ⟨before.length, before.length + inner.length + 1⟩ = known? opening inner)
    (document : List Event) :
    (spansFrom isStart isEnd 0 none document).filterMap (at? document) =
      gather isStart isEnd known? document := by
  have found := filterMap_positions isLocal [] (cut isStart isEnd document)
  rw [List.nil_append, flatMap_events_cut] at found
  rw [spansFrom_none]
  exact found

theorem gather_append {α : Type} {known? : (opening : Event) → (inner : List Event) → Option α}
    {left : List Event} (other : ∀ event ∈ left, isStart event = false) (right : List Event) :
    gather isStart isEnd known? (left ++ right) = gather isStart isEnd known? right := by
  have alone : (left.map single).filterMap (collect known?) = [] := by
    simp [List.filterMap_map, collect]
  rw [gather, cut_append other, List.filterMap_append, alone]
  rfl

theorem gather_span {α : Type} {known? : (opening : Event) → (inner : List Event) → Option α}
    {opening closing : Event} {inner : List Event} (starts : isStart opening = true)
    (within : ∀ event ∈ inner, isStart event = false ∧ isEnd event = false)
    (ends : isEnd closing = true) (other : isStart closing = false) (rest : List Event) :
    gather isStart isEnd known? (opening :: inner ++ [closing] ++ rest) =
      (known? opening inner).toList ++ gather isStart isEnd known? rest := by
  rw [gather, cut_span starts within ends other, List.filterMap_cons]
  cases found : known? opening inner <;> simp [collect, found, gather]

end Segment

end DocSite.Document
