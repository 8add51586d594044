import DocSite.Proofs.Document.Segment

/-!
# Rewriting a document

What becomes of a document when each of its spans is changed where it stands: the spans are told by
the events themselves and not by positions, and everything outside of them stays. A pass over the
segments of a document does just that.
-/

namespace DocSite.Document

/-- A start, the events behind it, and the end that closes it: the next end, if there is no start
before that. -/
structure IsSpan (isStart isEnd : Event → Bool) (opening : Event) (inner : List Event)
    (closing : Event) : Prop where
  opens : isStart opening = true
  within : ∀ event ∈ inner, isStart event = false ∧ isEnd event = false
  closes : isEnd closing = true

/-- Nothing among these events closes a start before them: they have no end, or a start comes
first. -/
def StaysOpen (isStart isEnd : Event → Bool) (rest : List Event) : Prop :=
  ∀ inner closing after, rest = inner ++ closing :: after →
    (∀ event ∈ inner, isStart event = false ∧ isEnd event = false) → isEnd closing = false

/-- The first document becomes the second one when its spans are changed and all else is kept. -/
inductive Rewritten (isStart isEnd : Event → Bool)
    (change : (opening : Event) → (inner : List Event) → (closing : Event) → List Event) :
    (document result : List Event) → Prop
  | nil : Rewritten isStart isEnd change [] []
  | span {opening : Event} {inner : List Event} {closing : Event} {rest result : List Event} :
      IsSpan isStart isEnd opening inner closing → Rewritten isStart isEnd change rest result →
      Rewritten isStart isEnd change (opening :: inner ++ [closing] ++ rest)
        (change opening inner closing ++ result)
  | single {event : Event} {rest result : List Event} :
      (isStart event = true → StaysOpen isStart isEnd rest) →
      Rewritten isStart isEnd change rest result →
      Rewritten isStart isEnd change (event :: rest) (event :: result)

/-- Whether every start is closed before another one follows. `opened` says that one waits for its
end. -/
def closesEach (isStart isEnd : Event → Bool) : (opened : Bool) → List Event → Bool
  | opened, [] => !opened
  | opened, event :: rest =>
    if isStart event then !opened && closesEach isStart isEnd true rest
    else if isEnd event then closesEach isStart isEnd false rest
    else closesEach isStart isEnd opened rest

variable {isStart isEnd : Event → Bool}
  {change : (opening : Event) → (inner : List Event) → (closing : Event) → List Event}
  {document result rest inner : List Event} {opening closing event : Event}

/-! ## Starts that stay open -/

theorem StaysOpen.tail (outside : isStart event = false)
    (staysOpen : StaysOpen isStart isEnd (event :: rest)) :
    isEnd event = false ∧ StaysOpen isStart isEnd rest := by
  have ends : isEnd event = false := staysOpen [] event rest rfl (by simp)
  refine ⟨ends, fun inner closing after parts free => ?_⟩
  exact staysOpen (event :: inner) closing after (by simp [parts])
    (by simpa [outside, ends] using free)

theorem StaysOpen.closesEach_eq_false (staysOpen : StaysOpen isStart isEnd rest) :
    closesEach isStart isEnd true rest = false := by
  induction rest with
  | nil => rfl
  | cons event rest induction =>
      cases starts : isStart event with
      | true => simp [closesEach, starts]
      | false =>
          obtain ⟨ends, staysOpen⟩ := staysOpen.tail starts
          simp [closesEach, starts, ends, induction staysOpen]

/-- Behind a span, no start waits for its end. -/
theorem closesEach_span (other : isStart closing = false)
    (isSpan : IsSpan isStart isEnd opening inner closing) :
    closesEach isStart isEnd false (opening :: inner ++ [closing] ++ rest) =
      closesEach isStart isEnd false rest := by
  obtain ⟨opens, within, closes⟩ := isSpan
  have reached : closesEach isStart isEnd true (inner ++ closing :: rest) =
      closesEach isStart isEnd false rest := by
    induction inner with
    | nil => simp [closesEach, other, closes]
    | cons event inner induction =>
        simp only [List.mem_cons, forall_eq_or_imp] at within
        simpa [closesEach, within.1] using induction within.2
  simpa [closesEach, opens] using reached

namespace Segment

private theorem cutFrom_staysOpen (opening : Event) (before : List Event)
    (staysOpen : StaysOpen isStart isEnd rest) :
    cutFrom isStart isEnd (some (opening, before)) rest =
      unclosed (some (opening, before)) ++ cutFrom isStart isEnd none rest := by
  induction rest generalizing before with
  | nil => simp [cutFrom, unclosed]
  | cons event rest induction =>
      cases starts : isStart event with
      | true => simp [cutFrom, starts, unclosed]
      | false =>
          obtain ⟨ends, open'⟩ := staysOpen.tail starts
          have longer := induction (before ++ [event]) open'
          simp [cutFrom, starts, ends, longer, unclosed]

/-- A start that no end closes is a segment by itself, as is an event that is no start. -/
theorem cut_single (alone : isStart event = true → StaysOpen isStart isEnd rest) :
    cut isStart isEnd (event :: rest) = single event :: cut isStart isEnd rest := by
  cases starts : isStart event with
  | false => simp [cut, cutFrom, starts]
  | true => simpa [cut, cutFrom, starts, unclosed] using cutFrom_staysOpen event [] (alone starts)

theorem pass_single (alone : isStart event = true → StaysOpen isStart isEnd rest) :
    pass isStart isEnd change (event :: rest) = event :: pass isStart isEnd change rest := by
  simp [pass, cut_single alone, rewrite]

theorem gather_single {α : Type}
    {known? : (opening : Event) → (inner : List Event) → Option α}
    (alone : isStart event = true → StaysOpen isStart isEnd rest) :
    gather isStart isEnd known? (event :: rest) = gather isStart isEnd known? rest := by
  rw [gather, cut_single alone, List.filterMap_cons]
  rfl

end Segment

namespace Rewritten

open Segment (pass pass_span pass_single gather)

-- No end is a start.
variable (apart : ∀ event, isEnd event = true → isStart event = false)
include apart

theorem eq_pass (rewritten : Rewritten isStart isEnd change document result) :
    result = pass isStart isEnd change document := by
  induction rewritten with
  | nil => rfl
  | span isSpan _ induction =>
      rw [pass_span isSpan.opens isSpan.within isSpan.closes (apart _ isSpan.closes), induction]
  | single alone _ induction => rw [pass_single alone, induction]

theorem of_pass (document : List Event) :
    Rewritten isStart isEnd change document (pass isStart isEnd change document) := by
  induction length : document.length using Nat.strongRecOn generalizing document with
  | _ size induction =>
      subst length
      cases document with
      | nil => exact nil
      | cons event rest =>
          by_cases alone : isStart event = true → StaysOpen isStart isEnd rest
          · rw [pass_single alone]
            exact single alone (induction _ (by simp) rest rfl)
          · simp only [StaysOpen, Classical.not_imp, Classical.not_forall, Bool.not_eq_false] at alone
            obtain ⟨starts, inner, closing, after, rfl, within, ends⟩ := alone
            have parts : event :: (inner ++ closing :: after) =
                event :: inner ++ [closing] ++ after := by simp
            rw [parts, pass_span starts within ends (apart _ ends)]
            exact span ⟨starts, within, ends⟩ (induction _ (by simp; omega) after rfl)

/-- A pass over the spans of a document is its rewriting, and there is no other one. -/
theorem iff_eq_pass :
    Rewritten isStart isEnd change document result ↔
      result = pass isStart isEnd change document :=
  ⟨eq_pass apart, fun same => same ▸ of_pass apart document⟩

/-! ## Rewriting twice -/

/-- If every start is closed and what becomes of a span is not changed again, a second pass changes
nothing. -/
theorem pass_result (rewritten : Rewritten isStart isEnd change document result)
    (closes : closesEach isStart isEnd false document)
    (stable : ∀ opening inner closing, IsSpan isStart isEnd opening inner closing → ∀ rest,
      pass isStart isEnd change (change opening inner closing ++ rest) =
        change opening inner closing ++ pass isStart isEnd change rest) :
    pass isStart isEnd change result = result := by
  induction rewritten with
  | nil => rfl
  | span isSpan _ induction =>
      rw [closesEach_span (apart _ isSpan.closes) isSpan] at closes
      rw [stable _ _ _ isSpan, induction closes]
  | @single event rest result alone _ induction =>
      cases starts : isStart event with
      | true => simp [closesEach, starts, (alone starts).closesEach_eq_false] at closes
      | false =>
          have closes' : closesEach isStart isEnd false rest := by
            simpa [closesEach, starts] using closes
          rw [pass_single (by simp [starts]), induction closes']

/-! ## What is known of spans -/

/-- A start that stays open does so after a rewriting in which spans still begin with starts. -/
private theorem staysOpen (rewritten : Rewritten isStart isEnd change rest result)
    (keepsStart : ∀ opening inner closing, IsSpan isStart isEnd opening inner closing →
      ∃ first more, change opening inner closing = first :: more ∧ isStart first = true)
    (open' : StaysOpen isStart isEnd rest) : StaysOpen isStart isEnd result := by
  induction rewritten with
  | nil => exact open'
  | span isSpan _ _ =>
      obtain ⟨first, more, changed, starts⟩ := keepsStart _ _ _ isSpan
      rw [changed]
      intro inner closing after parts within
      cases inner with
      | nil =>
          obtain ⟨rfl, -⟩ := List.cons.inj parts
          exact eq_false_of_ne_true fun ends => by simp [apart _ ends] at starts
      | cons event inner =>
          obtain ⟨rfl, -⟩ := List.cons.inj parts
          simp [starts] at within
  | @single event rest result alone _ induction =>
      intro inner closing after parts within
      cases inner with
      | nil =>
          obtain ⟨rfl, -⟩ := List.cons.inj parts
          exact open' [] event rest rfl (by simp)
      | cons other inner =>
          obtain ⟨rfl, tail⟩ := List.cons.inj parts
          simp only [List.mem_cons, forall_eq_or_imp] at within
          exact induction (open'.tail within.1.1).2 inner closing after tail within.2

/-- What is known of the spans stays the same if it does so for each of them. -/
theorem gather_eq {α : Type} {known? : (opening : Event) → (inner : List Event) → Option α}
    (rewritten : Rewritten isStart isEnd change document result)
    (keeps : ∀ opening inner closing, IsSpan isStart isEnd opening inner closing →
      ∃ first content last, change opening inner closing = first :: content ++ [last] ∧
        IsSpan isStart isEnd first content last ∧ known? first content = known? opening inner) :
    gather isStart isEnd known? result = gather isStart isEnd known? document := by
  have keepsStart : ∀ opening inner closing, IsSpan isStart isEnd opening inner closing →
      ∃ first more, change opening inner closing = first :: more ∧ isStart first = true := by
    intro opening inner closing isSpan
    obtain ⟨first, content, last, changed, isSpan', -⟩ := keeps _ _ _ isSpan
    exact ⟨first, content ++ [last], changed, isSpan'.opens⟩
  induction rewritten with
  | nil => rfl
  | span isSpan _ induction =>
      obtain ⟨first, content, last, changed, isSpan', same⟩ := keeps _ _ _ isSpan
      rw [changed, Segment.gather_span isSpan'.opens isSpan'.within isSpan'.closes
        (apart _ isSpan'.closes), Segment.gather_span isSpan.opens isSpan.within isSpan.closes
        (apart _ isSpan.closes), induction, same]
  | single alone rewritten induction =>
      have alone' := fun starts => staysOpen apart rewritten keepsStart (alone starts)
      rw [Segment.gather_single alone, Segment.gather_single alone', induction]

end Rewritten

end DocSite.Document
