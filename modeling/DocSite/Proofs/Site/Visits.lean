import DocSite.Proofs.Site.Sessions
import Mathlib.Data.List.Forall2

/-!
# Visits to pages

A page may be loaded again and again, while the source changes what it answers. Nothing is kept
from one visit to the next: every visit asks for its document, and leaves the view as the first
visit of a new view would. The tickets that were given out before a visit are late from then on.
-/

namespace DocSite

/-- What can be seen of a view. The number of its navigations cannot. -/
structure Display where
  /-- What the view is doing. -/
  phase : Phase
  /-- The current page. -/
  address : Option Address
  /-- The URL of its document. -/
  url : Option Text
  /-- What is shown. -/
  rendition : Rendition

/-- A page that is loaded, and the source as it is then. -/
structure Visit where
  /-- The page. -/
  address : Address
  /-- What the source answers during the visit. -/
  source : Source
  /-- What documents are rendered with. -/
  renderer : Document.Renderer

/-- What a visit does, as far as it can be noticed. -/
structure Visit.Outcome where
  /-- The URLs that the source is asked for. -/
  requests : List Text
  /-- What became of the document. -/
  delivery : Delivery
  /-- What is seen of the view afterwards. -/
  display : Display

namespace View

/-- What can be seen of a view. -/
def display (view : View) : Display where
  phase := view.phase
  address := view.address
  url := view.url
  rendition := view.rendition

/-- What a visit does if a view makes it. -/
def outcome (view : View) (visit : Visit) : Visit.Outcome :=
  let loading := view.load visit.renderer visit.address
  { requests := loading.requests visit.source
    delivery := (loading.result visit.source).2
    display := (loading.result visit.source).1.display }

/-- A visit has one outcome for all views with a location: the page is asked for once, and what is
answered is shown. -/
theorem outcome_eq (view : View) (visit : Visit) :
    let url := view.location.url visit.address
    let content := Content.ofFetched (visit.source url)
    view.outcome visit =
      { requests := [url]
        delivery := .applied
        display :=
          { phase := .showing content
            address := some visit.address
            url := some url
            rendition := .of visit.renderer content } } := by
  intro url content
  have own : (view.navigate visit.address).2.generation =
      (view.navigate visit.address).1.generation := rfl
  have requests : (view.load visit.renderer visit.address).requests visit.source = [url] := rfl
  rw [outcome, requests, load_eq, resolve_current own]
  rfl

end View

theorem Phase.showing_eq (content : Content) :
    showing content = .rendered ∨ showing content = .fetchFailed := by
  cases content with
  | empty => exact .inl rfl
  | markdown _ => exact .inl rfl
  | unavailable => exact .inr rfl

namespace Session

/-- Makes a visit. -/
def visit (session : Session) (visit : Visit) : Session :=
  session.load visit.renderer visit.source visit.address

/-- Makes some visits, one after the other. -/
def visitAll (session : Session) (visits : List Visit) : Session :=
  visits.foldl visit session

/-- What each of some visits does. -/
def outcomes (session : Session) : List Visit → List Visit.Outcome
  | [] => []
  | visit :: visits => session.view.outcome visit :: (session.visit visit).outcomes visits

/-! ## What visits leave behind -/

theorem Reaches.placed {location : Location} {session : Session}
    (reached : Reaches (start (View.new location)) session) : Placed location session := by
  induction reached with
  | refl => exact placed_start location
  | tail _ step induction =>
      cases step with
      | navigate address => exact induction.navigate address
      | load renderer source address => exact induction.load renderer source address
      | resolve renderer issued answer => exact induction.resolve renderer _ answer

theorem Reaches.visitAll {first session : Session} (reached : Reaches first session)
    (visits : List Visit) : Reaches first (session.visitAll visits) := by
  induction visits generalizing session with
  | nil => exact reached
  | cons visit visits induction =>
      exact induction (reached.tail (.load session visit.renderer visit.source visit.address))

/-- A visit counts as a navigation, but gives nobody a ticket. -/
theorem navigations_visitAll (session : Session) (visits : List Visit) :
    (session.visitAll visits).navigations =
      session.navigations ++ List.replicate visits.length none := by
  induction visits generalizing session with
  | nil => exact (List.append_nil _).symm
  | cons visit visits induction =>
      have rest := induction (session.visit visit)
      rw [visitAll, List.foldl_cons, List.length_cons, List.replicate_succ]
      rw [visitAll] at rest
      rw [rest, Session.visit, Session.load, List.append_assoc, List.singleton_append]

theorem outcomes_eq_map {location : Location} {session : Session}
    (placed : Placed location session) (visits : List Visit) :
    session.outcomes visits = visits.map (View.new location).outcome := by
  induction visits generalizing session with
  | nil => rfl
  | cons visit visits induction =>
      have rest := induction (placed.load visit.renderer visit.source visit.address)
      have first : session.view.outcome visit = (View.new location).outcome visit := by
        rw [View.outcome_eq, View.outcome_eq, placed.location_eq]
        rfl
      rw [outcomes, List.map_cons, first, Session.visit, rest]

/-- A ticket that was given out before some visits is late behind them. -/
theorem resolve_visitAll {view : View} {session : Session}
    (reached : Reaches (start view) session) {visits : List Visit} (any : visits ≠ [])
    {number : Nat} {ticket : Ticket} (issued : session.Issued number ticket)
    (renderer : Document.Renderer) (answer : Fetched) :
    (session.visitAll visits).view.resolve renderer ticket answer =
      ((session.visitAll visits).view, .stale) := by
  obtain ⟨early, _⟩ := List.getElem?_eq_some_iff.mp issued
  have navigations := navigations_visitAll session visits
  have still : (session.visitAll visits).Issued number ticket := by
    rw [Issued, navigations, List.getElem?_append_left early]
    exact issued
  have more : 0 < visits.length := List.length_pos_iff.mpr any
  apply View.resolve_late
  rw [Ne, (reached.visitAll visits).numbered.current_iff still, navigations, List.length_append,
    List.length_replicate]
  omega

/-! ## No history -/

/-- Whatever has happened to a view, every visit that it then makes does what the same visit does if
it is the first one of a new view: it asks once, for the URL of its page, delivers, and shows the
document or that there is none. Behind a visit all tickets that were given out before are late. -/
theorem visits_have_no_history {location : Location} {session : Session}
    (reached : Reaches (start (View.new location)) session) (visits : List Visit) :
    List.Forall₂ (fun visit outcome =>
        outcome = (View.new location).outcome visit ∧
          outcome.requests = [location.url visit.address] ∧ outcome.delivery = .applied ∧
          (outcome.display.phase = .rendered ∨ outcome.display.phase = .fetchFailed))
        visits (session.outcomes visits) ∧
      (visits ≠ [] → ∀ (number : Nat) (ticket : Ticket), session.Issued number ticket →
        ∀ (renderer : Document.Renderer) (answer : Fetched),
          (session.visitAll visits).view.resolve renderer ticket answer =
            ((session.visitAll visits).view, .stale)) := by
  constructor
  · rw [outcomes_eq_map (Reaches.placed reached), List.forall₂_map_right_iff, List.forall₂_same]
    intro visit _
    rw [View.outcome_eq]
    exact ⟨rfl, rfl, rfl, Phase.showing_eq _⟩
  · intro any number ticket issued renderer answer
    exact resolve_visitAll reached any issued renderer answer

/-- A view waits for a page. Then it loads that page twice, and the page is changed in between. -/
theorem visits_have_no_history_changed_page :
    let session := (start (View.new .default)).navigate .root
    let ticket := ((View.new .default).navigate .root).2
    let before : Visit := ⟨.root, fun _ => .ok "# A", Document.Stage.standard⟩
    let after : Visit := ⟨.root, fun _ => .ok "# B", Document.Stage.standard⟩
    let last := (session.visitAll [before, after]).view
    Reaches (start (View.new .default)) session ∧ session.Issued 0 ticket ∧
      session.outcomes [before, after] =
        [(View.new .default).outcome before, (View.new .default).outcome after] ∧
      last.rendition.content = .markdown "# B" ∧
      (last.resolve Document.Stage.standard ticket (.ok "# A")).2 = .stale := by
  intro session ticket before after last
  have reached : Reaches (start (View.new .default)) session :=
    Relation.ReflTransGen.refl.tail (.navigate _ _)
  have issued : session.Issued 0 ticket := rfl
  obtain ⟨alike, late⟩ := visits_have_no_history reached [before, after]
  have same : session.outcomes [before, after] =
      [(View.new .default).outcome before, (View.new .default).outcome after] := by
    cases alike with
    | cons first rest =>
        cases rest with
        | cons second _ =>
            simp only [outcomes, first.1, second.1]
  have stale := late (List.cons_ne_nil _ _) 0 ticket issued Document.Stage.standard (.ok "# A")
  exact ⟨reached, issued, same, rfl, congrArg Prod.snd stale⟩

end Session

end DocSite
