import DocSite.Site.Fetch

/-!
# What follows from every answer

A computation that fetches texts is a tree: it branches on what is answered. What holds at all
leaves of the tree holds whatever the source answers, also if it answers one URL in many ways.
-/

namespace DocSite.Fetching

variable {α β : Type}

/-- All results of a computation have a property, whatever is answered to what it asks for. -/
inductive Always (property : α → Prop) : Fetching α → Prop
  | done {value : α} (holds : property value) : Always property (done value)
  | ask {url : Text} {next : Fetched → Fetching α}
      (each : ∀ answer, Always property (next answer)) : Always property (ask url next)

theorem Always.mono {property weaker : α → Prop} {computation : Fetching α}
    (always : computation.Always property) (implied : ∀ value, property value → weaker value) :
    computation.Always weaker := by
  induction always with
  | done holds => exact .done (implied _ holds)
  | ask each induction => exact .ask induction

theorem always_of_forall {property : α → Prop} (holds : ∀ value, property value)
    (computation : Fetching α) : computation.Always property := by
  induction computation with
  | done value => exact .done (holds value)
  | ask url next induction => exact .ask induction

theorem Always.bind {property : α → Prop} {goal : β → Prop} {first : Fetching α}
    {next : α → Fetching β} (always : first.Always property)
    (behind : ∀ value, property value → (next value).Always goal) :
    (first >>= next).Always goal := by
  induction always with
  | done holds => exact behind _ holds
  | ask each induction => exact .ask induction

/-- What holds of a value for every first result holds of all results. -/
theorem always_map {property : β → Prop} (first : Fetching α) {value : α → β}
    (holds : ∀ result, property (value result)) :
    (first >>= fun result => pure (value result)).Always property :=
  (always_of_forall holds first).bind fun _ held => .done held

/-! ## Runs against one source -/

@[simp] theorem result_pure (value : α) (source : Source) :
    (pure value : Fetching α).result source = value :=
  rfl

@[simp] theorem requests_pure (value : α) (source : Source) :
    (pure value : Fetching α).requests source = [] :=
  rfl

@[simp] theorem result_bind (first : Fetching α) (next : α → Fetching β) (source : Source) :
    (first >>= next).result source = (next (first.result source)).result source := by
  induction first with
  | done value => rfl
  | ask url rest induction => exact induction (source url)

@[simp] theorem requests_bind (first : Fetching α) (next : α → Fetching β) (source : Source) :
    (first >>= next).requests source =
      first.requests source ++ (next (first.result source)).requests source := by
  induction first with
  | done value => rfl
  | ask url rest induction => exact congrArg (url :: ·) (induction (source url))

/-! ## Computations that always ask for the same -/

/-- A computation asks for these URLs in this order, whatever is answered. -/
inductive Asks : Fetching α → List Text → Prop
  | done {value : α} : Asks (done value) []
  | ask {url : Text} {next : Fetched → Fetching α} {urls : List Text}
      (each : ∀ answer, Asks (next answer) urls) : Asks (ask url next) (url :: urls)

theorem Asks.requests {computation : Fetching α} {urls : List Text}
    (asks : computation.Asks urls) (source : Source) : computation.requests source = urls := by
  induction asks with
  | done => rfl
  | @ask url next urls each induction => exact congrArg (url :: ·) (induction (source url))

theorem Asks.unique {computation : Fetching α} {urls others : List Text}
    (asks : computation.Asks urls) (also : computation.Asks others) : urls = others := by
  let silent : Source := fun url => .error (.transport url)
  rw [← asks.requests silent, also.requests silent]

theorem Asks.bind {first : Fetching α} {next : α → Fetching β} {urls more : List Text}
    (asks : first.Asks urls) (behind : ∀ value, (next value).Asks more) :
    (first >>= next).Asks (urls ++ more) := by
  induction asks with
  | done => exact behind _
  | ask each induction => exact .ask induction

/-- To make something of the result, nothing is asked for. -/
theorem Asks.map {first : Fetching α} {urls : List Text} (asks : first.Asks urls)
    (value : α → β) : (first >>= fun result => pure (value result)).Asks urls := by
  have whole := asks.bind fun result => (.done : (pure (value result) : Fetching β).Asks [])
  rwa [List.append_nil] at whole

/-! ## Computations that ask for the same as one another -/

/-- Two computations ask for the same as long as they are answered alike, and then their results are
related. -/
inductive Together (related : α → β → Prop) : Fetching α → Fetching β → Prop
  | done {value : α} {other : β} (holds : related value other) :
      Together related (done value) (done other)
  | ask {url : Text} {next : Fetched → Fetching α} {others : Fetched → Fetching β}
      (each : ∀ answer, Together related (next answer) (others answer)) :
      Together related (ask url next) (ask url others)

section Together

variable {related : α → β → Prop} {one : Fetching α} {other : Fetching β}

theorem Together.result (together : one.Together related other) (source : Source) :
    related (one.result source) (other.result source) := by
  induction together with
  | done holds => exact holds
  | @ask url _ _ each induction => exact induction (source url)

/-- What is made of one result in two ways. -/
theorem together_map {γ : Type} {left : γ → α} {right : γ → β}
    (alike : ∀ value, related (left value) (right value)) (first : Fetching γ) :
    (first >>= fun value => pure (left value)).Together related
      (first >>= fun value => pure (right value)) := by
  induction first with
  | done value => exact .done (alike value)
  | ask url next induction => exact .ask induction

theorem Together.map {γ δ : Type} {goal : γ → δ → Prop} {left : α → γ} {right : β → δ}
    (together : one.Together related other)
    (behind : ∀ value another, related value another → goal (left value) (right another)) :
    (one >>= fun value => pure (left value)).Together goal
      (other >>= fun value => pure (right value)) := by
  induction together with
  | done holds => exact .done (behind _ _ holds)
  | ask each induction => exact .ask induction

end Together

end DocSite.Fetching
