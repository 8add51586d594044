import DocSite.Proofs.Site.Session

/-!
# What a view shows belongs together

Whatever is done to a view, it is in one of three forms: nothing has happened to it, or it waits for
the document of a page, or it shows one answer for that page. Its fields never come from different
answers or from different pages.
-/

namespace DocSite

/-! ## The rendition of nothing -/

namespace Document

theorem Stage.runAll_nil (tools : Tools) (stages : List Stage) : runAll tools stages [] = [] := by
  induction stages with
  | nil => rfl
  | cons stage stages induction =>
      have same : stage.run tools [] = [] := by cases stage <;> rfl
      rw [runAll, List.foldl_cons, same]
      exact induction

/-- If the empty text is read as the empty document, it is rendered as the empty page. -/
theorem Renderer.render_nil {renderer : Renderer} (nothing : renderer.tools.read [] = []) :
    renderer.render [] = [] := by
  rw [render, Tools.render, Tools.parse, nothing, List.map_nil, Stage.runAll_nil]
  rfl

end Document

/-- Before anything is fetched a view shows what the empty document is rendered as. -/
theorem Rendition.of_empty {renderer : Document.Renderer}
    (nothing : renderer.tools.read [] = []) : of renderer .empty = blank := by
  simp [of, Content.text, Document.Renderer.render_nil nothing, blank]

theorem Rendition.content_of (renderer : Document.Renderer) (content : Content) :
    (of renderer content).content = content :=
  rfl

/-! ## What is done to a view -/

/-- The ticket comes from a navigation, of whatever view. -/
def Ticket.Given (ticket : Ticket) : Prop :=
  ∃ (view : View) (address : Address), (view.navigate address).2 = ticket

theorem Ticket.Given.generation_ne_zero {ticket : Ticket} (given : ticket.Given) :
    ticket.generation ≠ 0 := by
  obtain ⟨view, address, rfl⟩ := given
  exact Nat.succ_ne_zero view.generation

namespace View

/-- Something that is done to a view. -/
inductive Action
  | navigate (address : Address)
  /-- A page is loaded from a source. -/
  | load (source : Source) (address : Address)
  /-- An answer is delivered with a ticket, which need not be one of this view. -/
  | resolve (ticket : Ticket) (given : ticket.Given) (answer : Fetched)

/-- Whether an action goes to a page. -/
def Action.navigates : Action → Bool
  | navigate _ => true
  | load _ _ => true
  | resolve _ _ _ => false

/-- The view after an action, if documents are rendered in some way. -/
def act (renderer : Document.Renderer) (view : View) : Action → View
  | .navigate address => (view.navigate address).1
  | .load source address => ((view.load renderer address).result source).1
  | .resolve ticket _ answer => (view.resolve renderer ticket answer).1

/-- The view after some actions. -/
def actAll (renderer : Document.Renderer) (view : View) (actions : List Action) : View :=
  actions.foldl (act renderer) view

/-! ## The forms of a view -/

/-- The forms that a view can have after a number of navigations. -/
inductive Form (renderer : Document.Renderer) (location : Location) : Nat → View → Prop
  | fresh : Form renderer location 0 (new location)
  | waiting (count : Nat) (address : Address) :
      Form renderer location (count + 1)
        { location
          phase := .fetching
          generation := count + 1
          address := some address
          url := some (location.url address)
          rendition := .blank }
  | answered (count : Nat) (address : Address) (answer : Fetched) :
      Form renderer location (count + 1)
        { location
          phase := .showing (.ofFetched answer)
          generation := count + 1
          address := some address
          url := some (location.url address)
          rendition := .of renderer (.ofFetched answer) }

variable {renderer : Document.Renderer} {location : Location} {count : Nat} {view : View}

theorem Form.navigate (form : Form renderer location count view) (address : Address) :
    Form renderer location (count + 1) (view.navigate address).1 := by
  cases form with
  | fresh => exact .waiting 0 address
  | waiting count _ => exact .waiting (count + 1) address
  | answered count _ _ => exact .waiting (count + 1) address

/-- A view that has not navigated takes no ticket, since no ticket has the number zero. -/
theorem Form.resolve (form : Form renderer location count view) {ticket : Ticket}
    (given : ticket.Given) (answer : Fetched) :
    Form renderer location count (view.resolve renderer ticket answer).1 := by
  by_cases current : ticket.generation = view.generation
  · rw [resolve_current current]
    cases form with
    | fresh => exact (given.generation_ne_zero current).elim
    | waiting count address => exact .answered count address answer
    | answered count address _ => exact .answered count address answer
  · rw [resolve_late current]
    exact form

theorem Form.act (form : Form renderer location count view) (action : Action) :
    Form renderer location (count + if action.navigates then 1 else 0)
      (view.act renderer action) := by
  cases action with
  | navigate address => exact form.navigate address
  | load source address =>
      rw [View.act, load_eq]
      exact (form.navigate address).resolve ⟨view, address, rfl⟩ _
  | resolve ticket given answer => exact form.resolve given answer

theorem Form.actAll (form : Form renderer location count view) (actions : List Action) :
    Form renderer location (count + actions.countP Action.navigates)
      (view.actAll renderer actions) := by
  induction actions generalizing count view with
  | nil => exact form
  | cons action actions induction =>
      have next := induction (form.act action)
      rw [List.countP_cons, Nat.add_comm (actions.countP _), ← Nat.add_assoc]
      exact next

/-! ## Coherence -/

/-- The fields of a view belong together. -/
structure Coherent (renderer : Document.Renderer) (location : Location) (count : Nat)
    (view : View) : Prop where
  /-- The content, the outline and the markup come from one answer. -/
  rendition_eq : view.rendition = .of renderer view.rendition.content
  waiting_iff : view.phase = .idle ∨ view.phase = .fetching ↔ view.rendition.content = .empty
  rendered_iff : view.phase = .rendered ↔ ∃ body, view.rendition.content = .markdown body
  fetchFailed_iff : view.phase = .fetchFailed ↔ view.rendition.content = .unavailable
  headings_eq_nil : view.phase ≠ .rendered → view.rendition.headings = []
  idle_iff : view.phase = .idle ↔ view.generation = 0 ∧ view.address = none ∧ view.url = none
  /-- Once a view has navigated it is on a page, and has the URL of that page. -/
  placed : view.phase ≠ .idle → view.generation ≠ 0 ∧
    ∃ address, view.address = some address ∧ view.url = some (location.url address)
  generation_eq : view.generation = count

theorem Form.coherent (form : Form renderer location count view)
    (nothing : renderer.tools.read [] = []) : Coherent renderer location count view := by
  cases form with
  | fresh =>
      constructor <;> simp [new, Rendition.of_empty nothing, Rendition.blank]
  | waiting count address =>
      constructor <;> simp [Rendition.of_empty nothing, Rendition.blank]
  | answered count address answer =>
      cases answer with
      | ok body =>
          constructor <;>
            simp [Rendition.content_of, Content.ofFetched, Phase.showing, Content.isUnavailable]
      | error cause =>
          constructor <;>
            simp [Rendition.of, Content.ofFetched, Phase.showing, Content.isUnavailable]

/-- Whatever is done to a new view, with tickets of this or of any other view, its fields belong
together, and it has counted its navigations. The empty text has to be read as the empty document,
since that is what a view shows while it waits. -/
theorem coherent_after_actions (location : Location) (renderer : Document.Renderer)
    (nothing : renderer.tools.read [] = []) (actions : List Action) :
    Coherent renderer location (actions.countP Action.navigates)
      ((new location).actAll renderer actions) := by
  have untouched : Form renderer location 0 (new location) := .fresh
  have form := untouched.actAll actions
  rw [Nat.zero_add] at form
  exact form.coherent nothing

/-- A page is loaded, and the view waits for it again. An answer comes with the ticket of another
view, which has navigated equally often. -/
theorem coherent_after_actions_foreign_ticket :
    let other := (new .default).navigate .root
    let ticket := (other.1.navigate .root).2
    let actions : List Action := [.load (fun _ => .ok "# A") .root, .navigate .root,
      .resolve ticket ⟨_, _, rfl⟩ (.error (.status ticket.url 404))]
    let view := (new .default).actAll Document.Stage.standard actions
    Document.Tools.standard.read [] = [] ∧
      Coherent Document.Stage.standard .default 2 view ∧ view.phase = .fetchFailed ∧
      view.rendition.content = .unavailable := by
  intro other ticket actions view
  have coherent : Coherent Document.Stage.standard .default 2 view :=
    coherent_after_actions .default Document.Stage.standard rfl actions
  have failed : view.phase = .fetchFailed := rfl
  exact ⟨rfl, coherent, failed, coherent.fetchFailed_iff.mp failed⟩

end View

end DocSite
