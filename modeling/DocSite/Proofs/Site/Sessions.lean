import DocSite.Proofs.Site.Session
import Mathlib.Logic.Function.Basic

/-!
# Sessions of several views

Several views are used in turn, and every view may be given the tickets of the others. A view knows
a ticket by its number alone. Among its own tickets no two have the same number, so what it shows
for one of them is shown under the address that it was fetched for. A ticket of another view is
taken if the two views have navigated equally often, whatever page it is for.
-/

namespace DocSite

/-! ## The place of a view -/

namespace View

/-- A delivery changes only the phase and what is shown. -/
theorem resolve_frame (view : View) (renderer : Document.Renderer) (ticket : Ticket)
    (answer : Fetched) :
    ∃ phase rendition,
      (view.resolve renderer ticket answer).1 = { view with phase, rendition } := by
  by_cases current : ticket.generation = view.generation
  · exact ⟨_, _, congrArg Prod.fst (resolve_current current renderer answer)⟩
  · exact ⟨_, _, congrArg Prod.fst (resolve_late current renderer answer)⟩

theorem resolve_applied_iff {view : View} {renderer : Document.Renderer} {ticket : Ticket}
    {answer : Fetched} :
    (view.resolve renderer ticket answer).2 = .applied ↔ ticket.generation = view.generation := by
  by_cases current : ticket.generation = view.generation
  · simp [resolve_current current, current]
  · simp [resolve_late current, current]

end View

namespace Session

/-- The view is where its latest navigation went, and its tickets say where theirs went. -/
structure Placed (location : Location) (session : Session) : Prop where
  numbered : Numbered 0 session
  location_eq : session.view.location = location
  url_eq : session.view.url = session.view.address.map location.url
  ticket_url_eq : ∀ number ticket, session.Issued number ticket →
    ticket.url = location.url ticket.address
  latest_address : ∀ number ticket, session.Issued number ticket →
    number + 1 = session.navigations.length → session.view.address = some ticket.address

variable {location : Location} {session : Session}

theorem placed_start (location : Location) : Placed location (start (.new location)) where
  numbered := show Numbered (View.new location).generation _ from Reaches.numbered .refl
  location_eq := rfl
  url_eq := rfl
  ticket_url_eq number ticket issued := by simp [Issued, start] at issued
  latest_address number ticket issued := by simp [Issued, start] at issued

/-- Where a view is after a navigation, it is after a delivery that follows. -/
theorem Placed.view_frame (placed : Placed location session) (next : Session)
    (frame : ∃ phase rendition, next.view = { session.view with phase, rendition }) :
    next.view.generation = session.view.generation ∧ next.view.location = location ∧
      next.view.address = session.view.address ∧
      next.view.url = session.view.address.map location.url := by
  obtain ⟨phase, rendition, same⟩ := frame
  rw [same]
  exact ⟨rfl, placed.location_eq, rfl, placed.url_eq⟩

theorem Placed.navigate (placed : Placed location session) (address : Address) :
    Placed location (session.navigate address) where
  numbered := placed.numbered.step (.navigate session address)
  location_eq := placed.location_eq
  url_eq := by simp [Session.navigate, View.navigate, placed.location_eq]
  ticket_url_eq number ticket issued := by
    rcases issued_append issued with earlier | ⟨_, latest⟩
    · exact placed.ticket_url_eq number ticket earlier
    · obtain rfl := Option.some.inj latest
      rw [View.navigate, placed.location_eq]
  latest_address number ticket issued count := by
    rcases issued_append issued with earlier | ⟨_, latest⟩
    · obtain ⟨bound, _⟩ := List.getElem?_eq_some_iff.mp earlier
      simp only [Session.navigate, List.length_append, List.length_singleton] at count
      omega
    · obtain rfl := Option.some.inj latest
      rfl

/-- A load is a navigation whose ticket nobody has, and one delivery. -/
theorem Placed.load (placed : Placed location session) (renderer : Document.Renderer)
    (source : Source) (address : Address) :
    Placed location (session.load renderer source address) := by
  have framed := (placed.navigate address).view_frame (session.load renderer source address)
    (View.resolve_frame _ renderer _ _)
  obtain ⟨_, location_eq, address_eq, url_eq⟩ := framed
  rw [← address_eq] at url_eq
  refine ⟨placed.numbered.step (.load session renderer source address), location_eq, url_eq, ?_, ?_⟩
  · intro number ticket issued
    rcases issued_append issued with earlier | ⟨_, latest⟩
    · exact placed.ticket_url_eq number ticket earlier
    · simp at latest
  · intro number ticket issued count
    rcases issued_append issued with earlier | ⟨_, latest⟩
    · obtain ⟨bound, _⟩ := List.getElem?_eq_some_iff.mp earlier
      simp only [Session.load, List.length_append, List.length_singleton] at count
      omega
    · simp at latest

theorem Placed.resolve (placed : Placed location session) (renderer : Document.Renderer)
    (ticket : Ticket) (answer : Fetched) :
    Placed location (session.resolve renderer ticket answer) := by
  have framed := placed.view_frame (session.resolve renderer ticket answer)
    (View.resolve_frame _ renderer ticket answer)
  obtain ⟨generation_eq, location_eq, address_eq, url_eq⟩ := framed
  rw [← address_eq] at url_eq
  refine ⟨⟨?_, placed.numbered.marked⟩, location_eq, url_eq, placed.ticket_url_eq, ?_⟩
  · rw [generation_eq]
    exact placed.numbered.counted
  · intro number issuedTicket issued count
    rw [address_eq]
    exact placed.latest_address number issuedTicket issued count

end Session

/-! ## Several views -/

/-- Several views, each with what has happened to it. -/
abbrev Sessions (ι : Type) := ι → Session

namespace Sessions

variable {ι : Type} [DecidableEq ι]

/-- New views, each with its own location. -/
def start (location : ι → Location) : Sessions ι :=
  fun i => .start (.new (location i))

/-- One step of one of the views. What is delivered to it is delivered with a ticket that one of the
views, be it another, gave out before. -/
inductive Step : Sessions ι → Sessions ι → Prop
  | navigate (sessions : Sessions ι) (i : ι) (address : Address) :
      Step sessions (Function.update sessions i ((sessions i).navigate address))
  | load (sessions : Sessions ι) (i : ι) (renderer : Document.Renderer) (source : Source)
      (address : Address) :
      Step sessions (Function.update sessions i ((sessions i).load renderer source address))
  | resolve (sessions : Sessions ι) (i : ι) {issuer : ι} {number : Nat} {ticket : Ticket}
      (issued : (sessions issuer).Issued number ticket) (renderer : Document.Renderer)
      (answer : Fetched) :
      Step sessions (Function.update sessions i ((sessions i).resolve renderer ticket answer))

/-- The views can go on to what they are in other sessions. -/
def Reaches : Sessions ι → Sessions ι → Prop :=
  Relation.ReflTransGen Step

/-- Every view is at the place of its latest navigation. -/
def Placed (location : ι → Location) (sessions : Sessions ι) : Prop :=
  ∀ i, (sessions i).Placed (location i)

variable {location : ι → Location} {before after sessions : Sessions ι}

theorem Placed.update (placed : Placed location sessions) {i : ι} {next : Session}
    (placedNext : next.Placed (location i)) :
    Placed location (Function.update sessions i next) := by
  intro other
  by_cases same : other = i
  · subst same
    rw [Function.update_self]
    exact placedNext
  · rw [Function.update_of_ne same]
    exact placed other

theorem Placed.step (placed : Placed location before) (step : Step before after) :
    Placed location after := by
  cases step with
  | navigate i address => exact placed.update ((placed i).navigate address)
  | load i renderer source address => exact placed.update ((placed i).load renderer source address)
  | resolve i issued renderer answer => exact placed.update ((placed i).resolve renderer _ answer)

theorem Reaches.placed (reached : Reaches (start location) sessions) :
    Placed location sessions := by
  induction reached with
  | refl => exact fun i => Session.placed_start (location i)
  | tail _ step induction => exact induction.step step

/-! ## Where a document is shown -/

/-- A ticket is applied if and only if its number among the navigations of its issuer is that of the
latest navigation of the view that is given it. The view then shows the document under the address
and the URL of the ticket if it is the issuer itself; and in general if and only if it is on the page
of the ticket already and both views have the same URL for that page. A load shows the document of
the page that it goes to. -/
theorem shown_under_own_address (reached : Reaches (start location) sessions)
    (renderer : Document.Renderer) :
    (∀ (i issuer : ι) (number : Nat) (ticket : Ticket) (answer : Fetched),
      (sessions issuer).Issued number ticket →
        let delivered := (sessions i).view.resolve renderer ticket answer
        let fits := delivered.1.address = some ticket.address ∧ delivered.1.url = some ticket.url
        (delivered.2 = .applied ↔ number + 1 = (sessions i).navigations.length) ∧
          (delivered.2 = .applied → i = issuer → fits) ∧
          (fits ↔ (sessions i).view.address = some ticket.address ∧
            (location i).url ticket.address = (location issuer).url ticket.address)) ∧
      ∀ (i : ι) (source : Source) (address : Address),
        let loaded := ((sessions i).view.load renderer address).result source
        loaded.2 = .applied ∧ loaded.1.address = some address ∧
          loaded.1.url = some ((location i).url address) := by
  have placed := reached.placed
  constructor
  · intro i issuer number ticket answer issued delivered fits
    have applied : delivered.2 = .applied ↔ number + 1 = (sessions i).navigations.length := by
      have counted := (placed i).numbered.counted
      have marked := (placed issuer).numbered.marked number ticket issued
      rw [View.resolve_applied_iff]
      omega
    have fits_iff : fits ↔ (sessions i).view.address = some ticket.address ∧
        (location i).url ticket.address = (location issuer).url ticket.address := by
      obtain ⟨_, _, address_eq, url_eq⟩ := (placed i).view_frame
        ((sessions i).resolve renderer ticket answer) (View.resolve_frame _ renderer ticket answer)
      have ticket_url := (placed issuer).ticket_url_eq number ticket issued
      constructor
      · rintro ⟨address, url⟩
        have place : (sessions i).view.address = some ticket.address := address_eq ▸ address
        have same := url_eq.symm.trans url
        rw [place, ticket_url] at same
        exact ⟨place, Option.some.inj same⟩
      · rintro ⟨place, same⟩
        rw [place] at address_eq url_eq
        refine ⟨address_eq, url_eq.trans ?_⟩
        rw [ticket_url, ← same]
        rfl
    refine ⟨applied, fun taken own => ?_, fits_iff⟩
    subst own
    exact fits_iff.mpr ⟨(placed i).latest_address number ticket issued (applied.mp taken), rfl⟩
  · intro i source address loaded
    have own : ((sessions i).view.navigate address).2.generation =
        ((sessions i).view.navigate address).1.generation := rfl
    obtain ⟨_, _, address_eq, url_eq⟩ := ((placed i).navigate address).view_frame
      ((sessions i).load renderer source address) (View.resolve_frame _ renderer _ _)
    exact ⟨View.resolve_applied_iff.mpr own, address_eq, url_eq⟩

/-- Two views go to two pages. The ticket of the first one is taken by the second one, which then
shows the document of one page under the address of the other. -/
theorem shown_under_own_address_two_views :
    let intro : Address := { segments := ["intro"], length_le := by decide, ne_nil := by decide }
    let guide : Address := { segments := ["guide"], length_le := by decide, ne_nil := by decide }
    let start : Sessions Bool := start fun _ => .default
    let opened := Function.update start false ((start false).navigate intro)
    let sessions := Function.update opened true ((opened true).navigate guide)
    let ticket := ((View.new .default).navigate intro).2
    let own := (sessions false).view.resolve Document.Stage.standard ticket (.ok "# A")
    let other := (sessions true).view.resolve Document.Stage.standard ticket (.ok "# A")
    Reaches start sessions ∧ (sessions false).Issued 0 ticket ∧
      own.2 = .applied ∧ own.1.address = some ticket.address ∧ own.1.url = some ticket.url ∧
      other.2 = .applied ∧
      ¬(other.1.address = some ticket.address ∧ other.1.url = some ticket.url) := by
  intro intro guide start opened sessions ticket own other
  have reached : Reaches start sessions :=
    (Relation.ReflTransGen.refl.tail (.navigate start false intro)).tail
      (.navigate opened true guide)
  have issued : (sessions false).Issued 0 ticket := rfl
  obtain ⟨deliveries, _⟩ := shown_under_own_address reached Document.Stage.standard
  obtain ⟨ownApplied, ownFits, _⟩ := deliveries false false 0 ticket (.ok "# A") issued
  obtain ⟨otherApplied, _, otherFits⟩ := deliveries true false 0 ticket (.ok "# A") issued
  have taken : own.2 = .applied := ownApplied.mpr rfl
  have shown := ownFits taken rfl
  refine ⟨reached, issued, taken, shown.1, shown.2, otherApplied.mpr rfl, fun fits => ?_⟩
  have place : (sessions true).view.address = some intro := (otherFits.mp fits).1
  exact absurd place (by decide)

end Sessions

end DocSite
