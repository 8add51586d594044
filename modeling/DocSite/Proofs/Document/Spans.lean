import DocSite.Document.Span
import Mathlib.Data.List.Pairwise

/-!
# Where spans are

The scan for spans remembers one position: that of the last start, as long as nothing has come
that ends it. So it finds just those spans that go from a start to an end with neither a start nor
an end between them, one behind the other, whatever the document is. Where starts and ends take
turns, none is left out.
-/

namespace DocSite.Document

/-! ## Spans of a document -/

/-- At a position, the start at an earlier one waits for its end: neither a start nor an end has
come since. -/
structure Waits (isStart isEnd : Event → Bool) (events : List Event) (start position : Nat) :
    Prop where
  earlier : start < position
  opens : ∃ opening, events[start]? = some opening ∧ isStart opening = true
  since : ∀ between, start < between → between < position →
    ∀ event, events[between]? = some event → isStart event = false ∧ isEnd event = false

/-- The span goes from a start to the end that it waits for. -/
structure Span.Joins (isStart isEnd : Event → Bool) (events : List Event) (span : Span) :
    Prop where
  waits : Waits isStart isEnd events span.start span.stop
  closes : ∃ closing, events[span.stop]? = some closing ∧ isEnd closing = true

/-- The span goes from a position of the document to a later one. -/
def Span.Inside (span : Span) (events : List Event) : Prop :=
  span.start < span.stop ∧ span.stop < events.length

/-- Events that are a start and an end, and so on. -/
inductive Alternating (isStart isEnd : Event → Bool) : List Event → Prop
  | nil : Alternating isStart isEnd []
  | pair {opening closing : Event} {rest : List Event} : isStart opening = true →
      isEnd closing = true → Alternating isStart isEnd rest →
      Alternating isStart isEnd (opening :: closing :: rest)

/-- In the document, starts and ends take turns, a start first and an end last. -/
def TakeTurns (isStart isEnd : Event → Bool) (events : List Event) : Prop :=
  Alternating isStart isEnd (events.filter fun event => isStart event || isEnd event)

/-- The list holds the spans of a document. -/
structure Locates (isStart isEnd : Event → Bool) (events : List Event) (spans : List Span) :
    Prop where
  /-- The spans in the list are those that go from a start to its end. -/
  mem_iff : ∀ span, span ∈ spans ↔ span.Joins isStart isEnd events
  /-- Their positions are positions of the document. -/
  inside : ∀ span ∈ spans, span.Inside events
  /-- Each of them stands behind those before it in the list. -/
  apart : spans.Pairwise fun left right => left.stop < right.start
  /-- If starts and ends take turns, each of them belongs to just one span. -/
  once : TakeTurns isStart isEnd events → ∀ position event, events[position]? = some event →
    isStart event = true ∨ isEnd event = true →
    ∃! span, span ∈ spans ∧ (span.start = position ∨ span.stop = position)

variable {isStart isEnd : Event → Bool} {events rest : List Event} {event : Event}
  {opened : Option Nat} {start position : Nat} {span : Span}

theorem Span.Joins.inside (joins : span.Joins isStart isEnd events) : span.Inside events := by
  obtain ⟨closing, found, -⟩ := joins.closes
  exact ⟨joins.waits.earlier, (List.getElem?_eq_some_iff.mp found).1⟩

/-! ## One step -/

/-- One position further, the start that waits is the one that has just come, or the one from
before if this is neither a start nor an end. -/
theorem waits_succ_iff (found : events[position]? = some event) :
    Waits isStart isEnd events start (position + 1) ↔
      start = position ∧ isStart event = true ∨
        Waits isStart isEnd events start position ∧ isStart event = false ∧ isEnd event = false := by
  constructor
  · rintro ⟨earlier, opens, since⟩
    rcases Nat.lt_succ_iff_lt_or_eq.mp earlier with before | rfl
    · refine .inr ⟨⟨before, opens, fun between behind ahead => ?_⟩, ?_⟩
      · exact since between behind (Nat.lt_succ_of_lt ahead)
      · exact since position before (Nat.lt_succ_self position) event found
    · obtain ⟨opening, same, starts⟩ := opens
      obtain rfl := Option.some.inj (same.symm.trans found)
      exact .inl ⟨rfl, starts⟩
  · rintro (⟨rfl, starts⟩ | ⟨⟨earlier, opens, since⟩, neither⟩)
    · exact ⟨Nat.lt_succ_self start, ⟨event, found, starts⟩, fun between behind ahead => by omega⟩
    · refine ⟨Nat.lt_succ_of_lt earlier, opens, fun between behind ahead other there => ?_⟩
      rcases Nat.lt_succ_iff_lt_or_eq.mp ahead with before | rfl
      · exact since between behind before other there
      · obtain rfl := Option.some.inj (found.symm.trans there)
        exact neither

/-- A start has been waiting all the time before its end. -/
theorem Span.Joins.waits_at (joins : span.Joins isStart isEnd events)
    (behind : span.start < position) (ahead : position ≤ span.stop) :
    Waits isStart isEnd events span.start position :=
  ⟨behind, joins.waits.opens, fun between after before =>
    joins.waits.since between after (Nat.lt_of_lt_of_le before ahead)⟩

/-- What the scan remembers at a position is the start that waits there. -/
def Remembers (isStart isEnd : Event → Bool) (events : List Event) (position : Nat)
    (opened : Option Nat) : Prop :=
  ∀ start, opened = some start ↔ Waits isStart isEnd events start position

namespace Remembers

theorem zero (isStart isEnd : Event → Bool) (events : List Event) :
    Remembers isStart isEnd events 0 none :=
  fun _ => ⟨nofun, fun waits => absurd waits.earlier (Nat.not_lt_zero _)⟩

theorem of_start (found : events[position]? = some event) (starts : isStart event = true) :
    Remembers isStart isEnd events (position + 1) (some position) := by
  intro start
  rw [waits_succ_iff found, Option.some.injEq]
  simp only [starts, Bool.true_eq_false, false_and, and_false, or_false, and_true]
  exact eq_comm

theorem of_end (found : events[position]? = some event) (starts : isStart event = false)
    (ends : isEnd event = true) : Remembers isStart isEnd events (position + 1) none := by
  intro start
  rw [waits_succ_iff found]
  simp [starts, ends]

theorem of_other (remembers : Remembers isStart isEnd events position opened)
    (found : events[position]? = some event) (starts : isStart event = false)
    (ends : isEnd event = false) : Remembers isStart isEnd events (position + 1) opened := by
  intro start
  rw [waits_succ_iff found, remembers start]
  simp [starts, ends]

/-- A span that ends from a position on ends there, with the start that is remembered, or later. -/
theorem joins_iff (remembers : Remembers isStart isEnd events position opened)
    (found : events[position]? = some event) :
    span.Joins isStart isEnd events ∧ position ≤ span.stop ↔
      (opened = some span.start ∧ isEnd event = true ∧ span.stop = position) ∨
        span.Joins isStart isEnd events ∧ position + 1 ≤ span.stop := by
  constructor
  · rintro ⟨joins, ahead⟩
    rcases Nat.eq_or_lt_of_le ahead with here | later
    · obtain ⟨closing, same, ends⟩ := joins.closes
      rw [← here, found] at same
      obtain rfl := Option.some.inj same
      exact .inl ⟨(remembers _).mpr (here ▸ joins.waits), ends, here.symm⟩
    · exact .inr ⟨joins, later⟩
  · rintro (⟨waiting, ends, rfl⟩ | ⟨joins, later⟩)
    · exact ⟨⟨(remembers _).mp waiting, event, found, ends⟩, Nat.le_refl _⟩
    · exact ⟨joins, Nat.le_of_succ_le later⟩

end Remembers

/-! ## The scan -/

private theorem found_of_drop (behind : events.drop position = event :: rest) :
    events[position]? = some event ∧ events.drop (position + 1) = rest := by
  constructor
  · simpa using congrArg List.head? behind
  · rw [← List.tail_drop, behind]
    rfl

section Scan

-- No end is a start.
variable (apart : ∀ event, isEnd event = true → isStart event = false)
include apart

/-- From a position on, the scan finds the spans that end from there on. -/
theorem mem_spansFrom_iff (behind : events.drop position = rest)
    (remembers : Remembers isStart isEnd events position opened) :
    span ∈ spansFrom isStart isEnd position opened rest ↔
      span.Joins isStart isEnd events ∧ position ≤ span.stop := by
  induction rest generalizing position opened with
  | nil =>
      refine ⟨nofun, fun ⟨joins, ahead⟩ => ?_⟩
      have ended := List.drop_eq_nil_iff.mp behind
      have inside := joins.inside.2
      omega
  | cons event rest induction =>
      obtain ⟨found, behind⟩ := found_of_drop behind
      rw [remembers.joins_iff found]
      cases starts : isStart event with
      | true =>
          have ends : isEnd event = false :=
            eq_false_of_ne_true fun ends => by simp [apart _ ends] at starts
          simp [spansFrom, starts, ends, induction behind (.of_start found starts)]
      | false =>
          cases ends : isEnd event with
          | false =>
              simp [spansFrom, starts, ends, induction behind (remembers.of_other found starts ends)]
          | true =>
              have later := induction behind (.of_end found starts ends)
              cases opened with
              | none => simp [spansFrom, starts, ends, later]
              | some start =>
                  obtain ⟨first, last⟩ := span
                  simp [spansFrom, starts, ends, later, eq_comm]

/-- Where no start waits, the spans that end from there on begin there or later. -/
theorem le_start_of_mem_spansFrom (behind : events.drop position = rest)
    (remembers : Remembers isStart isEnd events position none)
    (member : span ∈ spansFrom isStart isEnd position none rest) : position ≤ span.start := by
  obtain ⟨joins, ahead⟩ := (mem_spansFrom_iff apart behind remembers).mp member
  by_contra before
  have waiting := (remembers _).mpr (joins.waits_at (Nat.lt_of_not_le before) ahead)
  contradiction

theorem pairwise_spansFrom (behind : events.drop position = rest)
    (remembers : Remembers isStart isEnd events position opened) :
    (spansFrom isStart isEnd position opened rest).Pairwise
      fun left right => left.stop < right.start := by
  induction rest generalizing position opened with
  | nil => exact .nil
  | cons event rest induction =>
      obtain ⟨found, behind⟩ := found_of_drop behind
      unfold spansFrom
      cases starts : isStart event with
      | true => simpa using induction behind (.of_start found starts)
      | false =>
          cases ends : isEnd event with
          | false => simpa using induction behind (remembers.of_other found starts ends)
          | true =>
              have closed : Remembers isStart isEnd events (position + 1) none :=
                .of_end found starts ends
              cases opened with
              | none => simpa using induction behind closed
              | some start =>
                  refine List.pairwise_cons.mpr ⟨fun later member => ?_, induction behind closed⟩
                  exact le_start_of_mem_spansFrom apart behind closed member

end Scan

/-! ## Starts and ends in turn -/

/-- The next event of some kind: where it is, that there is none before it, and what follows. -/
private theorem exists_next {p : Event → Bool} {mark : Event} {marks : List Event}
    (ahead : (events.drop position).filter p = mark :: marks) :
    ∃ place, position ≤ place ∧ events[place]? = some mark ∧
      (∀ between, position ≤ between → between < place → ∀ event, events[between]? = some event →
        p event = false) ∧
      (events.drop (place + 1)).filter p = marks := by
  obtain ⟨before, after, split, others, -, rfl⟩ := List.filter_eq_cons_iff.mp ahead
  have there : ∀ offset, events[position + offset]? = (before ++ mark :: after)[offset]? := by
    intro offset
    rw [← split, List.getElem?_drop]
  refine ⟨position + before.length, Nat.le_add_right _ _, ?_, ?_, ?_⟩
  · simp [there]
  · intro between reached earlier event found
    obtain ⟨offset, rfl⟩ := Nat.exists_eq_add_of_le reached
    rw [there, List.getElem?_append_left (by omega)] at found
    simpa using others event (List.mem_of_getElem? found)
  · rw [Nat.add_assoc, ← List.drop_drop, split, ← List.drop_drop, List.drop_left]
    rfl

/-- If starts and ends take turns from a position on, each of them belongs to a span. -/
private theorem exists_joins (position : Nat)
    (turns : Alternating isStart isEnd
      ((events.drop position).filter fun event => isStart event || isEnd event))
    {place : Nat} (reached : position ≤ place) (found : events[place]? = some event)
    (isMark : isStart event = true ∨ isEnd event = true) :
    ∃ span : Span, span.Joins isStart isEnd events ∧ (span.start = place ∨ span.stop = place) := by
  generalize ahead : (events.drop position).filter _ = marks at turns
  induction turns generalizing position with
  | nil =>
      obtain ⟨offset, rfl⟩ := Nat.exists_eq_add_of_le reached
      rw [← List.getElem?_drop] at found
      have other := List.filter_eq_nil_iff.mp ahead event (List.mem_of_getElem? found)
      simp [isMark] at other
  | @pair opening closing rest starts ends _ induction =>
      obtain ⟨first, _, here, before, ahead⟩ := exists_next ahead
      obtain ⟨last, further, there, between, ahead⟩ := exists_next ahead
      have joins : Span.Joins isStart isEnd events ⟨first, last⟩ :=
        ⟨⟨further, ⟨opening, here, starts⟩, fun inside after earlier other standing => by
          simpa using between inside after earlier other standing⟩, closing, there, ends⟩
      have isMark : (isStart event || isEnd event) = true := by simpa using isMark
      rcases Nat.lt_trichotomy place first with earlier | rfl | later
      · simp [before place reached earlier event found] at isMark
      · exact ⟨_, joins, .inl rfl⟩
      rcases Nat.lt_trichotomy place last with earlier | rfl | later
      · simp [between place later earlier event found] at isMark
      · exact ⟨_, joins, .inr rfl⟩
      · exact induction _ later ahead

/-! ## All spans -/

/-- Of two spans of which one stands behind the other, only one begins or ends at a place. -/
private theorem eq_of_place {spans : List Span}
    (inside : ∀ span ∈ spans, span.Inside events)
    (apart : spans.Pairwise fun left right => left.stop < right.start) {left right : Span}
    (leftMember : left ∈ spans) (rightMember : right ∈ spans) {place : Nat}
    (leftHas : left.start = place ∨ left.stop = place)
    (rightHas : right.start = place ∨ right.stop = place) : left = right := by
  by_contra different
  have : Std.Symm fun left right : Span => left.stop < right.start ∨ right.stop < left.start :=
    ⟨fun _ _ => Or.symm⟩
  have eitherWay : spans.Pairwise fun left right =>
      left.stop < right.start ∨ right.stop < left.start := apart.imp Or.inl
  have ordered := eitherWay.forall leftMember rightMember different
  have leftForward := (inside left leftMember).1
  have rightForward := (inside right rightMember).1
  omega

/-- The scan locates the spans of every document. -/
theorem locates_spansFrom (apart : ∀ event, isEnd event = true → isStart event = false)
    (events : List Event) :
    Locates isStart isEnd events (spansFrom isStart isEnd 0 none events) := by
  have whole : events.drop 0 = events := rfl
  have remembers := Remembers.zero isStart isEnd events
  have mem_iff : ∀ span, span ∈ spansFrom isStart isEnd 0 none events ↔
      span.Joins isStart isEnd events := fun span => by
    simpa using mem_spansFrom_iff apart whole remembers
  have inside : ∀ span ∈ spansFrom isStart isEnd 0 none events, span.Inside events :=
    fun span member => ((mem_iff span).mp member).inside
  have inOrder := pairwise_spansFrom apart whole remembers
  refine ⟨mem_iff, inside, inOrder, fun turns place event found isMark => ?_⟩
  obtain ⟨span, joins, has⟩ := exists_joins 0 turns (Nat.zero_le _) found isMark
  have member := (mem_iff span).mpr joins
  exact ⟨span, ⟨member, has⟩, fun other ⟨otherMember, otherHas⟩ =>
    eq_of_place inside inOrder otherMember member otherHas has⟩

end DocSite.Document
