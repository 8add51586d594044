import DocSite.Site.View
import Mathlib.Logic.Relation

/-!
# Sessions of a view

A session is a view with a record of its navigations and of the tickets that were given out. The
tickets may be used in any order, late, and again. Only that of the latest navigation delivers, and
it does so every time: a second delivery replaces the document that is shown.
-/

namespace DocSite

/-! ## Single deliveries -/

namespace View

theorem resolve_current {view : View} {ticket : Ticket}
    (current : ticket.generation = view.generation) (renderer : Document.Renderer)
    (answer : Fetched) :
    view.resolve renderer ticket answer =
      ({ view with
          phase := if (Content.ofFetched answer).isUnavailable then .fetchFailed else .rendered
          rendition := .of renderer (Content.ofFetched answer) }, .applied) := by
  rw [resolve, if_pos current]

theorem resolve_late {view : View} {ticket : Ticket}
    (late : ticket.generation ≠ view.generation) (renderer : Document.Renderer)
    (answer : Fetched) : view.resolve renderer ticket answer = (view, .stale) := by
  rw [resolve, if_neg late]

theorem generation_resolve (view : View) (renderer : Document.Renderer) (ticket : Ticket)
    (answer : Fetched) :
    (view.resolve renderer ticket answer).1.generation = view.generation := by
  by_cases current : ticket.generation = view.generation
  · rw [resolve_current current]
  · rw [resolve_late current]

/-- A page that is loaded is delivered with the ticket of its own navigation. -/
theorem load_eq (view : View) (renderer : Document.Renderer) (source : Source)
    (address : Address) :
    (view.load renderer address).result source =
      (view.navigate address).1.resolve renderer (view.navigate address).2
        (source (view.navigate address).2.url) :=
  rfl

end View

/-! ## Sessions -/

/-- A view and what has happened to it. -/
structure Session where
  /-- The view. -/
  view : View
  /-- The navigations so far, the first one first, with their tickets. Those of navigations inside
  loads are given to nobody. -/
  navigations : List (Option Ticket)

namespace Session

/-- The session in which nothing has happened to a view. -/
def start (view : View) : Session where
  view := view
  navigations := []

/-- Goes to a page and gives out the ticket. -/
def navigate (session : Session) (address : Address) : Session where
  view := (session.view.navigate address).1
  navigations := session.navigations ++ [some (session.view.navigate address).2]

/-- Loads a page. -/
def load (session : Session) (renderer : Document.Renderer) (source : Source)
    (address : Address) : Session where
  view := ((session.view.load renderer address).result source).1
  navigations := session.navigations ++ [none]

/-- Delivers what was fetched for a ticket. -/
def resolve (session : Session) (renderer : Document.Renderer) (ticket : Ticket)
    (answer : Fetched) : Session where
  view := (session.view.resolve renderer ticket answer).1
  navigations := session.navigations

/-- The ticket was given out for the navigation with a number, counted from zero. -/
def Issued (session : Session) (number : Nat) (ticket : Ticket) : Prop :=
  session.navigations[number]? = some (some ticket)

/-- One step of a session. A delivery is made with a ticket that was given out before. -/
inductive Step : Session → Session → Prop
  | navigate (session : Session) (address : Address) : Step session (session.navigate address)
  | load (session : Session) (renderer : Document.Renderer) (source : Source)
    (address : Address) : Step session (session.load renderer source address)
  | resolve (session : Session) (renderer : Document.Renderer) {number : Nat} {ticket : Ticket}
    (issued : session.Issued number ticket) (answer : Fetched) :
    Step session (session.resolve renderer ticket answer)

/-- A session can go on to become another one. -/
def Reaches : Session → Session → Prop :=
  Relation.ReflTransGen Step

/-! ## Numbers of navigations -/

/-- The view counts its navigations from some number on, and the tickets bear their numbers. -/
structure Numbered (first : Nat) (session : Session) : Prop where
  counted : session.view.generation = first + session.navigations.length
  marked : ∀ number ticket, session.Issued number ticket →
    ticket.generation = first + number + 1

theorem issued_append {navigations : List (Option Ticket)} {last : Option Ticket} {number : Nat}
    {ticket : Ticket} (issued : (navigations ++ [last])[number]? = some (some ticket)) :
    navigations[number]? = some (some ticket) ∨
      number = navigations.length ∧ last = some ticket := by
  rw [List.getElem?_append] at issued
  split at issued
  · exact .inl issued
  · rename_i long
    rw [List.getElem?_singleton] at issued
    split at issued
    · rename_i zero
      exact .inr ⟨by omega, Option.some.inj issued⟩
    · simp at issued

variable {first : Nat} {before after : Session}

theorem Numbered.step (numbered : Numbered first before) (step : Step before after) :
    Numbered first after := by
  obtain ⟨counted, marked⟩ := numbered
  cases step with
  | navigate address =>
      constructor
      · simp only [navigate, View.navigate, List.length_append, List.length_singleton]
        omega
      · intro number ticket issued
        rcases issued_append issued with earlier | ⟨rfl, latest⟩
        · exact marked number ticket earlier
        · obtain rfl := Option.some.inj latest
          simp only [View.navigate]
          omega
  | load renderer source address =>
      constructor
      · simp only [load, View.load_eq, View.generation_resolve, View.navigate,
          List.length_append, List.length_singleton]
        omega
      -- The ticket of a load is counted, but nobody has it.
      · intro number ticket issued
        rcases issued_append issued with earlier | ⟨_, latest⟩
        · exact marked number ticket earlier
        · simp at latest
  | resolve renderer issued answer =>
      constructor
      · rw [resolve, View.generation_resolve]
        exact counted
      · exact marked

theorem Reaches.numbered {view : View} {session : Session}
    (reached : Reaches (start view) session) : Numbered view.generation session := by
  induction reached with
  | refl => exact ⟨rfl, fun number ticket issued => by simp [Issued, start] at issued⟩
  | tail _ step induction => exact induction.step step

theorem Numbered.current_iff {session : Session} (numbered : Numbered first session)
    {number : Nat} {ticket : Ticket} (issued : session.Issued number ticket) :
    ticket.generation = session.view.generation ↔ number + 1 = session.navigations.length := by
  have counted := numbered.counted
  have marked := numbered.marked number ticket issued
  omega

/-- A word of 64 bits tells tickets apart as long as it holds the numbers of the navigations. -/
theorem Numbered.word_eq_iff {session : Session} (numbered : Numbered first session)
    (fits : session.view.generation < UInt64.size) {number : Nat} {ticket : Ticket}
    (issued : session.Issued number ticket) :
    UInt64.ofNat ticket.generation = UInt64.ofNat session.view.generation ↔
      ticket.generation = session.view.generation := by
  obtain ⟨earlier, _⟩ := List.getElem?_eq_some_iff.mp issued
  have counted := numbered.counted
  have marked := numbered.marked number ticket issued
  have ticketFits : ticket.generation < UInt64.size := by omega
  rw [← UInt64.toNat_inj, UInt64.toNat_ofNat_of_lt' ticketFits, UInt64.toNat_ofNat_of_lt' fits]

/-! ## Which deliveries are applied -/

/-- A delivery is applied just if its ticket is that of the latest navigation, and one that is not
leaves the view as it is. A load delivers its own page. For fewer than 2 ^ 64 navigations all this
is told by words of 64 bits as it is by numbers. -/
theorem applied_iff_latest {view : View} {session : Session}
    (reached : Reaches (start view) session) (renderer : Document.Renderer) :
    (∀ (number : Nat) (ticket : Ticket) (answer : Fetched), session.Issued number ticket →
      ((session.view.resolve renderer ticket answer).2 = .applied ↔
          number + 1 = session.navigations.length) ∧
        ((session.view.resolve renderer ticket answer).2 = .stale →
          (session.view.resolve renderer ticket answer).1 = session.view)) ∧
      (∀ (source : Source) (address : Address),
        ((session.view.load renderer address).result source).2 = .applied) ∧
      (session.view.generation < UInt64.size →
        ∀ (number : Nat) (ticket : Ticket), session.Issued number ticket →
          (UInt64.ofNat ticket.generation = UInt64.ofNat session.view.generation ↔
            number + 1 = session.navigations.length)) := by
  refine ⟨?_, ?_, ?_⟩
  · intro number ticket answer issued
    rw [← reached.numbered.current_iff issued]
    by_cases current : ticket.generation = session.view.generation
    · rw [View.resolve_current current]
      simp [current]
    · rw [View.resolve_late current]
      simp [current]
  · intro source address
    have own : (session.view.navigate address).2.generation =
        (session.view.navigate address).1.generation := rfl
    rw [View.load_eq, View.resolve_current own]
  · intro fits number ticket issued
    rw [reached.numbered.word_eq_iff fits issued, reached.numbered.current_iff issued]

/-- If a page is loaded between two navigations, the ticket of the first one is late and that of the
second one is not. -/
theorem applied_iff_latest_load_between :
    let opened := (start (View.new .default)).navigate .root
    let loaded := opened.load Document.Stage.standard (fun url => .error (.transport url)) .root
    let session := loaded.navigate .root
    let early := ((View.new .default).navigate .root).2
    let latest := (loaded.view.navigate .root).2
    Reaches (start (View.new .default)) session ∧
      session.Issued 0 early ∧ session.Issued 2 latest ∧
      (session.view.resolve Document.Stage.standard early (.ok "# A")).2 ≠ .applied ∧
      (session.view.resolve Document.Stage.standard latest (.ok "# A")).2 = .applied := by
  intro opened loaded session early latest
  have reached : Reaches (start (View.new .default)) session :=
    ((Relation.ReflTransGen.refl.tail (.navigate _ _)).tail (.load _ _ _ _)).tail (.navigate _ _)
  obtain ⟨deliveries, _⟩ := applied_iff_latest reached Document.Stage.standard
  refine ⟨reached, rfl, rfl, fun applied => ?_, ?_⟩
  · have number : 0 + 1 = session.navigations.length :=
      (deliveries 0 early (.ok "# A") rfl).1.mp applied
    exact absurd number (by decide)
  · exact (deliveries 2 latest (.ok "# A") rfl).1.mpr rfl

/-! ## Deliveries to a view that is done -/

end Session

/-- Whether the document of the current page has been delivered, or is known to be unavailable. -/
def Phase.isDone : Phase → Bool
  | idle | fetching => false
  | rendered | fetchFailed => true

/-- The phase in which a content is shown. -/
def Phase.showing (content : Content) : Phase :=
  if content.isUnavailable then .fetchFailed else .rendered

theorem Phase.isDone_showing (content : Content) : (showing content).isDone := by
  cases content <;> rfl

namespace Session

/-- A view that is done is in the phase of the content that it shows. -/
def Showing (session : Session) : Prop :=
  session.view.phase.isDone → session.view.phase = .showing session.view.rendition.content

theorem showing_resolve {view : View}
    (showing : view.phase.isDone → view.phase = .showing view.rendition.content)
    (renderer : Document.Renderer) (ticket : Ticket) (answer : Fetched) :
    let next := (view.resolve renderer ticket answer).1
    next.phase.isDone → next.phase = .showing next.rendition.content := by
  by_cases current : ticket.generation = view.generation
  · rw [View.resolve_current current]
    exact fun _ => rfl
  · rw [View.resolve_late current]
    exact showing

theorem Showing.step (showing : Showing before) (step : Step before after) : Showing after := by
  cases step with
  | navigate address => exact fun done => by simp [navigate, View.navigate, Phase.isDone] at done
  | load renderer source address =>
      apply showing_resolve
      exact fun done => by simp [Phase.isDone] at done
  | resolve renderer issued answer => exact showing_resolve showing renderer _ answer

theorem Reaches.showing {location : Location} {session : Session}
    (reached : Reaches (start (View.new location)) session) : Showing session := by
  induction reached with
  | refl => exact fun done => by simp [start, View.new, Phase.isDone] at done
  | tail _ step induction => exact induction.step step

/-- A delivery to a view that is done changes neither phase nor document just if its ticket is late
or what it delivers is what is shown. The ticket of the current page is not used up by its first
delivery: with it another document replaces the one that is shown. In any case the view stays done,
on the same page. -/
theorem delivery_keeps_document_iff {location : Location} {session : Session}
    (reached : Reaches (start (View.new location)) session) (done : session.view.phase.isDone)
    {number : Nat} {ticket : Ticket} (issued : session.Issued number ticket)
    (renderer : Document.Renderer) (answer : Fetched) :
    let next := (session.view.resolve renderer ticket answer).1
    (next.phase = session.view.phase ∧ next.rendition = session.view.rendition ↔
        number + 1 ≠ session.navigations.length ∨
          Rendition.of renderer (.ofFetched answer) = session.view.rendition) ∧
      next.phase.isDone ∧ next.generation = session.view.generation ∧
        next.address = session.view.address ∧ next.url = session.view.url := by
  intro next
  by_cases current : ticket.generation = session.view.generation
  · have latest := (reached.numbered.current_iff issued).mp current
    have resolved : next = { session.view with
        phase := .showing (Content.ofFetched answer)
        rendition := .of renderer (Content.ofFetched answer) } :=
      congrArg Prod.fst (View.resolve_current current renderer answer)
    refine ⟨⟨fun kept => .inr ?_, fun either => ?_⟩, ?_, ?_, ?_, ?_⟩
    · simpa [resolved] using kept.2
    · have same : Rendition.of renderer (.ofFetched answer) = session.view.rendition :=
        either.resolve_left (not_not_intro latest)
      have content : Content.ofFetched answer = session.view.rendition.content :=
        congrArg Rendition.content same
      constructor
      · rw [resolved, reached.showing done, content]
      · rw [resolved]
        exact same
    · simpa [resolved] using Phase.isDone_showing _
    · rw [resolved]
    · rw [resolved]
    · rw [resolved]
  · have late : number + 1 ≠ session.navigations.length :=
      fun latest => current ((reached.numbered.current_iff issued).mpr latest)
    have kept : next = session.view :=
      congrArg Prod.fst (View.resolve_late current renderer answer)
    rw [kept]
    exact ⟨⟨fun _ => .inl late, fun _ => ⟨rfl, rfl⟩⟩, done, rfl, rfl, rfl⟩

/-- A page is delivered, and after it, with the same ticket, the answer that there is no such
page. -/
theorem delivery_keeps_document_iff_second_answer :
    let ticket := ((View.new .default).navigate .root).2
    let opened := (start (View.new .default)).navigate .root
    let session := opened.resolve Document.Stage.standard ticket (.ok "# A")
    let answer : Fetched := .error (.status ticket.url 404)
    let next := (session.view.resolve Document.Stage.standard ticket answer).1
    Reaches (start (View.new .default)) session ∧ session.view.phase.isDone ∧
      session.Issued 0 ticket ∧
      ¬(next.phase = session.view.phase ∧ next.rendition = session.view.rendition) := by
  intro ticket opened session answer next
  have issued : opened.Issued 0 ticket := rfl
  have reached : Reaches (start (View.new .default)) session :=
    (Relation.ReflTransGen.refl.tail (.navigate _ _)).tail (.resolve _ _ issued _)
  have done : session.view.phase.isDone := rfl
  refine ⟨reached, done, issued, fun kept => ?_⟩
  rcases (delivery_keeps_document_iff reached done issued Document.Stage.standard answer).1.mp kept
    with late | same
  · exact late rfl
  · have content : Content.unavailable = .markdown "# A" := congrArg Rendition.content same
    simp at content

end Session

end DocSite
