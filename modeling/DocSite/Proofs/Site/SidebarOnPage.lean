import DocSite.Command.Run
import DocSite.Proofs.Html.Elements
import DocSite.Proofs.Site.Isolation

/-!
# The table of contents on a page

On a page, the table of contents is lists in lists. Read as elements, they show every link with its
route, its title and its description, and the links below it, whatever characters these texts have.
The listing of the same links in plain text goes through them in the same order.
-/

namespace DocSite

open Html (ElementTag Nodes Piece readElement?)

/-! ## What is shown -/

/-- What is shown of a link. -/
structure ShownLink where
  /-- The route it leads to. -/
  href : Text
  /-- Its title. -/
  title : Text
  /-- Its description, if it has one. -/
  description : Option Text
  deriving DecidableEq, Repr

/-- A list of links as they are shown, each with the links below it. -/
inductive LinkTree
  | empty
  | link (first : ShownLink) (subsections rest : LinkTree)
  deriving DecidableEq, Repr

/-- What is shown of a link of the table of contents: all but the name of its member. -/
def SidebarLink.shown (link : SidebarLink) : ShownLink where
  href := "/docs/".toList ++ link.file
  title := link.title
  description := link.description

/-- What is shown of a table of contents. -/
def Sidebar.shown : Sidebar → LinkTree
  | empty => .empty
  | link first subsections rest => .link first.shown subsections.shown rest.shown

namespace LinkTree

/-- Puts a list of links after another. -/
def append : LinkTree → LinkTree → LinkTree
  | empty, after => after
  | link first subsections rest, after => link first subsections (rest.append after)

theorem append_empty (tree : LinkTree) : tree.append .empty = tree := by
  induction tree with
  | empty => rfl
  | link first subsections rest _ restInduction => rw [append, restInduction]

/-- The links, each one before those below it, with their depths. -/
def entries (depth : Nat) : LinkTree → List (Nat × ShownLink)
  | empty => []
  | link first subsections rest =>
    (depth, first) :: (subsections.entries (depth + 1) ++ rest.entries depth)

end LinkTree

/-- A line for a link, which is indented by two spaces for each level above it. -/
def ShownLink.record (depth : Nat) (link : ShownLink) : Text :=
  (List.replicate depth "  ".toList).flatten ++ link.title ++ "  ".toList ++ link.href ++
    (link.description.elim [] ("  - ".toList ++ ·)) ++ ['\n']

/-! ## Reading lists of links -/

/-- Whether a tag opens the description of a link. -/
def Html.ElementTag.isDescription (tag : ElementTag) : Bool :=
  tag.name == "div".toList && tag.value? "class" == some "sidebar-description".toList

namespace Html.Nodes

/-- The link in an item of a list: its first anchor, and its first description. -/
def linkIn? (item : Nodes) : Option ShownLink := do
  let (anchor, title) ← item.find? (·.name == "a".toList)
  let href ← anchor.value? "href"
  let description := item.find? ElementTag.isDescription
  return { href, title := title.content, description := description.map (·.2.content) }

/-- The links in the items among some nodes, and in the items of lists among them. The links below
one are those in the lists that its item holds. -/
def links? : Nodes → Option LinkTree
  | text _ => some .empty
  | element _ tag inner rest =>
    if tag.name = "ul".toList then do
      return (← inner.links?).append (← rest.links?)
    else if tag.name = "li".toList then do
      return .link (← inner.linkIn?) (← inner.links?) (← rest.links?)
    else rest.links?

end Html.Nodes

/-- The links in the element that a text begins with. -/
def linksIn? (text : Text) : Option LinkTree := do
  let (_, inner, _) ← readElement? text
  inner.links?

/-! ## The table of contents as elements -/

/-- The elements for a link by itself, before other ones. -/
def SidebarLink.nodes (link : SidebarLink) (others : Nodes) : Nodes :=
  .element [] { name := "a", attributes := [("href", link.href)] } (.text link.title)
    (match link.description with
      | some description =>
        .element [] { name := "div", attributes := [("class", "sidebar-description")] }
          (.text description) others
      | none => others)

namespace Sidebar

/-- A list of items, or only a text where there are none. -/
def listNodes (isEmpty : Bool) (otherwise : Text) (items : Nodes) : Nodes :=
  if isEmpty then .text otherwise else .element ['\n'] { name := "ul" } items (.text ['\n'])

/-- The items for a list of links. -/
def itemNodes : Sidebar → Nodes
  | empty => .text ['\n']
  | link first subsections rest =>
    .element ['\n'] { name := "li" }
      (first.nodes (listNodes subsections.isEmpty [] subsections.itemNodes))
      rest.itemNodes

/-- What stands in the element for a table of contents. -/
def nodes (sidebar : Sidebar) : Nodes :=
  .element ['\n'] { name := "h2" } (.text "Documentation")
    (listNodes sidebar.isEmpty ['\n'] sidebar.itemNodes)

/-- The tag of that element. -/
def tag : ElementTag :=
  { name := "aside", attributes := [("class", "sidebar")] }

theorem write_linkNodes (link : SidebarLink) (others : Nodes) :
    (link.nodes others).write = Piece.writeAll (Page.linkPieces link) ++ others.write := by
  rw [SidebarLink.nodes, Nodes.write_element_text, Page.linkPieces, Page.writeAll_append,
    List.append_assoc]
  refine congrArg (Piece.writeAll (Page.element "a" [("href", link.href)] link.title) ++ ·) ?_
  cases link.description with
  | none => rfl
  | some description => exact Nodes.write_element_text [] description _ others

theorem write_listNodes {items : Nodes} {pieces : List Piece}
    (same : items.write = '\n' :: Piece.writeAll pieces) (otherwise : Text) :
    (listNodes false otherwise items).write = '\n' :: Piece.writeAll (Page.listOf pieces) := by
  have opening : Piece.writeAll [Page.start "ul" [], Page.newLine] =
      (ElementTag.start { name := "ul" }).write ++ ['\n'] := rfl
  have closing : Piece.writeAll [Page.finish "ul", Page.newLine] =
      (ElementTag.finish { name := "ul" }).write ++ ['\n'] := rfl
  rw [listNodes, if_neg Bool.false_ne_true, Nodes.write, Nodes.write, same, Page.listOf,
    Page.writeAll_append, Page.writeAll_append, opening, closing]
  simp only [List.append_assoc, List.cons_append, List.nil_append]
  rfl

theorem write_itemNodes (sidebar : Sidebar) :
    sidebar.itemNodes.write = '\n' :: Piece.writeAll (Page.sidebarItems sidebar) := by
  induction sidebar with
  | empty => rfl
  | link first subsections rest subsectionsInduction restInduction =>
      have below : (listNodes subsections.isEmpty [] subsections.itemNodes).write =
          Piece.writeAll (if subsections.isEmpty then []
            else Page.newLine :: Page.listOf (Page.sidebarItems subsections)) := by
        cases subsections.isEmpty with
        | true => rfl
        | false => exact write_listNodes subsectionsInduction []
      have opening : Piece.writeAll (Page.start "li" [] :: Page.linkPieces first) =
          (ElementTag.start { name := "li" }).write ++ Piece.writeAll (Page.linkPieces first) := rfl
      have closing : Piece.writeAll [Page.finish "li", Page.newLine] =
          (ElementTag.finish { name := "li" }).write ++ ['\n'] := rfl
      rw [itemNodes, Nodes.write, write_linkNodes, restInduction, below, Page.sidebarItems,
        Page.writeAll_append, Page.writeAll_append, Page.writeAll_append, opening, closing]
      simp only [List.append_assoc, List.cons_append, List.nil_append]
      rfl

/-- The element for a table of contents is written on a line of its own. -/
theorem write_nodes (sidebar : Sidebar) :
    Piece.writeAll (Page.sidebarPieces sidebar) =
      tag.start.write ++ (sidebar.nodes.write ++ (tag.finish.write ++ ['\n'])) := by
  have opening : Piece.writeAll [Page.start "aside" [("class", "sidebar")], Page.newLine] =
      tag.start.write ++ ['\n'] := rfl
  have closing : Piece.writeAll [Page.finish "aside", Page.newLine] =
      tag.finish.write ++ ['\n'] := rfl
  have list : (listNodes sidebar.isEmpty ['\n'] sidebar.itemNodes).write =
      '\n' :: Piece.writeAll (if sidebar.isEmpty then []
        else Page.listOf (Page.sidebarItems sidebar)) := by
    cases sidebar.isEmpty with
    | true => rfl
    | false => exact write_listNodes sidebar.write_itemNodes ['\n']
  rw [nodes, Nodes.write_element_text, list, Page.sidebarPieces, Page.writeAll_append,
    Page.writeAll_append, Page.writeAll_append, Page.writeAll_append, opening, closing]
  simp only [List.append_assoc, List.cons_append, List.nil_append]
  rfl

/-! ## Read back -/

theorem isPlain_linkNodes (link : SidebarLink) {others : Nodes} (plain : others.IsPlain) :
    (link.nodes others).IsPlain := by
  have name : Html.IsElementName "a".toList := by decide
  have href : '>' ∉ "href".toList ∧ '\x22' ∉ "href".toList := by decide
  refine ⟨⟨name, List.forall_mem_singleton.mpr href⟩, trivial, ?_⟩
  cases link.description with
  | none => exact plain
  | some description => exact ⟨by decide, trivial, plain⟩

theorem isPlain_listNodes {items : Nodes} (plain : items.IsPlain) (isEmpty : Bool)
    (otherwise : Text) : (listNodes isEmpty otherwise items).IsPlain := by
  cases isEmpty with
  | true => trivial
  | false => exact ⟨by decide, plain, trivial⟩

theorem isPlain_itemNodes (sidebar : Sidebar) : sidebar.itemNodes.IsPlain := by
  induction sidebar with
  | empty => trivial
  | link first subsections rest subsectionsInduction restInduction =>
      exact ⟨by decide, isPlain_linkNodes first (isPlain_listNodes subsectionsInduction _ _),
        restInduction⟩

theorem isPlain_nodes (sidebar : Sidebar) : sidebar.nodes.IsPlain :=
  ⟨by decide, trivial, isPlain_listNodes sidebar.isPlain_itemNodes _ _⟩

theorem linkIn?_linkNodes (link : SidebarLink) {others : Nodes}
    (last : others.find? ElementTag.isDescription = none) :
    (link.nodes others).linkIn? = some link.shown := by
  obtain ⟨key, title, file, description⟩ := link
  cases description with
  | none =>
      have description : (SidebarLink.nodes ⟨key, title, file, none⟩ others).find?
          ElementTag.isDescription = none := last
      rw [Nodes.linkIn?, description]
      rfl
  | some description => rfl

theorem links?_linkNodes (link : SidebarLink) (others : Nodes) :
    (link.nodes others).links? = others.links? := by
  rw [SidebarLink.nodes]
  cases link.description <;> rfl

/-- The links of a list are read from its items, and a list without items is not written. -/
theorem links?_listNodes {sidebar : Sidebar}
    (items : sidebar.itemNodes.links? = some sidebar.shown) (otherwise : Text) :
    (listNodes sidebar.isEmpty otherwise sidebar.itemNodes).links? = some sidebar.shown := by
  cases sidebar with
  | empty => rfl
  | link first subsections rest =>
      rw [isEmpty, listNodes, if_neg Bool.false_ne_true, Nodes.links?]
      simp only [if_true, items]
      exact congrArg some (LinkTree.append_empty _)

theorem links?_itemNodes (sidebar : Sidebar) : sidebar.itemNodes.links? = some sidebar.shown := by
  induction sidebar with
  | empty => rfl
  | link first subsections rest subsectionsInduction restInduction =>
      have last : (listNodes subsections.isEmpty [] subsections.itemNodes).find?
          ElementTag.isDescription = none := by
        cases subsections.isEmpty <;> rfl
      have item := linkIn?_linkNodes first last
      have below := (links?_linkNodes first _).trans (links?_listNodes subsectionsInduction [])
      have isItem : ("li".toList = "ul".toList) = False := by decide
      rw [itemNodes, Nodes.links?]
      simp only [isItem, if_false, if_true, item, below, restInduction]
      rfl

/-- The element for a table of contents is read as all that is shown of it, whatever follows. -/
theorem linksIn?_write (sidebar : Sidebar) (rest : Text) :
    linksIn? (Piece.writeAll (Page.sidebarPieces sidebar) ++ rest) = some sidebar.shown := by
  have element := Html.readElement?_write (by decide : tag.IsPlain) sidebar.isPlain_nodes
    ('\n' :: rest)
  have links : sidebar.nodes.links? = some sidebar.shown :=
    links?_listNodes sidebar.links?_itemNodes _
  rw [write_nodes, linksIn?]
  simp only [List.append_assoc, List.cons_append, List.nil_append, element]
  exact links

/-! ## What the page depends on -/

theorem linkNodes_eq_of_shown_eq {left right : SidebarLink} (same : left.shown = right.shown) :
    left.nodes = right.nodes := by
  have href : left.href = right.href := congrArg ShownLink.href same
  have title : left.title = right.title := congrArg ShownLink.title same
  have description : left.description = right.description :=
    congrArg ShownLink.description same
  funext others
  rw [SidebarLink.nodes, SidebarLink.nodes, href, title, description]

theorem isEmpty_eq_of_shown_eq {left right : Sidebar} (same : left.shown = right.shown) :
    left.isEmpty = right.isEmpty := by
  cases left <;> cases right <;> first | rfl | cases same

theorem itemNodes_eq_of_shown_eq {left right : Sidebar} (same : left.shown = right.shown) :
    left.itemNodes = right.itemNodes := by
  induction left generalizing right with
  | empty =>
      cases right with
      | empty => rfl
      | link first subsections rest => cases same
  | link first subsections rest subsectionsInduction restInduction =>
      cases right with
      | empty => cases same
      | link other below behind =>
          injection same with link subsectionsSame restSame
          rw [itemNodes, itemNodes, linkNodes_eq_of_shown_eq link,
            isEmpty_eq_of_shown_eq subsectionsSame, subsectionsInduction subsectionsSame,
            restInduction restSame]

/-- What is written depends on nothing but what is shown. -/
theorem write_eq_of_shown_eq {left right : Sidebar} (same : left.shown = right.shown) :
    Piece.writeAll (Page.sidebarPieces left) = Piece.writeAll (Page.sidebarPieces right) := by
  rw [write_nodes, write_nodes, nodes, nodes, isEmpty_eq_of_shown_eq same,
    itemNodes_eq_of_shown_eq same]

/-! ## Listings -/

theorem line_eq_record (depth : Nat) (link : SidebarLink) :
    link.line depth = link.shown.record depth := by
  have spaces : indentation depth = (List.replicate depth "  ".toList).flatten := by
    have pair : "  ".toList = List.replicate 2 ' ' := rfl
    rw [indentation, pair, List.flatten_replicate_replicate, Nat.mul_comm]
  obtain ⟨key, title, file, description⟩ := link
  unfold SidebarLink.line ShownLink.record
  rw [spaces]
  cases description <;> rfl

/-- The listing has a line for each link, in the order in which they are shown. -/
theorem listing_eq_flatMap (depth : Nat) (sidebar : Sidebar) :
    sidebar.listing depth =
      (sidebar.shown.entries depth).flatMap fun entry => entry.2.record entry.1 := by
  induction sidebar generalizing depth with
  | empty => rfl
  | link first subsections rest subsectionsInduction restInduction =>
      rw [listing, line_eq_record, subsectionsInduction, restInduction, shown, LinkTree.entries,
        List.flatMap_cons, List.flatMap_append, List.append_assoc]

end Sidebar

/-- The command that lists the table of contents writes the listing, without the blanks at its end
and with one line break behind it. -/
theorem Command.output_runSidebar {surroundings : Surroundings} {options : SourceOptions}
    {tools : Document.Tools} {viewer : Viewer} {source : Source} {sidebar : Sidebar}
    (prepared : options.viewer surroundings tools = .ok viewer)
    (read : Sidebar.ofFetched (source viewer.sidebarUrl) = .ok sidebar) :
    ((runSidebar surroundings options false tools).result source).output =
      Text.trimEnd (sidebar.listing 0) ++ ['\n'] := by
  have fetched : (Sidebar.fetch viewer.sidebarUrl).result source = .ok sidebar := by
    rw [← read]
    rfl
  rw [runSidebar, prepared, proceed]
  simp only [Fetching.result_bind, fetched, Fetching.result_pure]
  rfl

namespace Page

/-- Whatever else is on a page, its table of contents is read back link by link from the place where
its element begins, and two pages that differ at most in it are the same just if it shows the same
links. The listing has one line for each of these links, in the same order; it is what the command
for it writes, but for the blanks at its end. -/
theorem sidebar_read_back (page : Page) :
    ∃ before after, ∀ sidebar : Sidebar,
      let html := { page with sidebar }.html
      let lines := (sidebar.shown.entries 0).flatMap fun entry => entry.2.record entry.1
      html = before ++ (Piece.writeAll (sidebarPieces sidebar) ++ after) ∧
        linksIn? (html.drop before.length) = some sidebar.shown ∧
        (∀ other : Sidebar, { page with sidebar := other }.html = html ↔
          other.shown = sidebar.shown) ∧
        sidebar.listing 0 = lines ∧
        ∀ (surroundings : Surroundings) (options : Command.SourceOptions)
          (tools : Document.Tools) (viewer : Viewer) (source : Source),
          options.viewer surroundings tools = .ok viewer →
          Sidebar.ofFetched (source viewer.sidebarUrl) = .ok sidebar →
          ((Command.runSidebar surroundings options false tools).result source).output =
            Text.trimEnd lines ++ ['\n'] := by
  obtain ⟨before, after, around⟩ := page.html_sidebar
  have behind (sidebar : Sidebar) : { page with sidebar }.html.drop before.length =
      Piece.writeAll (sidebarPieces sidebar) ++ after := by
    rw [around, List.append_assoc, List.drop_left]
  have read (sidebar : Sidebar) :
      linksIn? ({ page with sidebar }.html.drop before.length) = some sidebar.shown := by
    rw [behind]
    exact sidebar.linksIn?_write after
  refine ⟨before, after, fun sidebar => ⟨?whole, read sidebar, ?determined,
    sidebar.listing_eq_flatMap 0, ?command⟩⟩
  case whole => rw [around, List.append_assoc]
  case determined =>
    intro other
    constructor
    · intro same
      have links := read other
      rw [same, read sidebar] at links
      exact (Option.some.inj links).symm
    · intro same
      rw [around, around, Sidebar.write_eq_of_shown_eq same]
  case command =>
    intro surroundings options tools viewer source prepared fetched
    rw [Command.output_runSidebar prepared fetched, sidebar.listing_eq_flatMap 0]

/-- Texts that look like markup, an empty description and none, and a link below another one, on a
page and in what a command writes. -/
theorem sidebar_read_back_markup :
    let sidebar : Sidebar :=
      .link ⟨"a", "</a><li>", "x\"y", some ""⟩ (.link ⟨"b", "", "", none⟩ .empty .empty) .empty
    let text : Text := "\x7b\"a\": [\"</a><li>\", \"x\\\"y\", \"\", ".toList ++
      "\x7b\"b\": [\"\", \"\"]\x7d]\x7d".toList
    let page : Page := ⟨.root, "</aside>", [], sidebar, .link "/theme.css", "/fonts.css"⟩
    let surroundings : Surroundings := ⟨⟨fun _ => .missing⟩, [], fun _ => none⟩
    let lines : Text := "</a><li>  /docs/x\"y  - \n    /docs/\n"
    (∃ before, linksIn? (page.html.drop before) = some
      (.link ⟨"/docs/x\"y", "</a><li>", some ""⟩ (.link ⟨"/docs/", "", none⟩ .empty .empty)
        .empty)) ∧
      sidebar.listing 0 = lines ∧
      ((Command.runSidebar surroundings ⟨none, none, none⟩ false).result
        fun _ => .ok text).output = lines := by
  intro sidebar text page surroundings lines
  obtain ⟨before, after, reads⟩ := page.sidebar_read_back
  obtain ⟨-, links, -, listing, written⟩ := reads sidebar
  have read : Sidebar.ofFetched (.ok text) = .ok sidebar := by decide +kernel
  have output := written surroundings ⟨none, none, none⟩ .standard .default (fun _ => .ok text)
    rfl read
  exact ⟨⟨before.length, links⟩, listing.trans (by decide), output.trans (by decide +kernel)⟩

end Page

end DocSite
