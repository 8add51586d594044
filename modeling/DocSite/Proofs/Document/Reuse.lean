import DocSite.Proofs.Document.Shape
import DocSite.Proofs.Html.Frames

/-!
# Documents written one after the other

A writer that has written a document remembers where it was in a table, and nothing else. The next
document looks at that place only in cells, and before any of its cells a table starts. So one
writer writes each of many documents as a new writer does.
-/

namespace DocSite

open Markdown (enclose)

/-- Whether an element can be anywhere and hold any other ones. A code block holds lines, and the
parts of a table are in tables. -/
def Tag.isFree : Tag → Bool
  | .codeBlock _ | .table _ | .tableHead | .tableRow | .tableCell => false
  | _ => true

/-- Whether an event is the start or the end of a cell. -/
def Event.isCellTag : Event → Bool
  | .start .tableCell | .finish .tableCell => true
  | _ => false

namespace Document

/-! ## Complete documents -/

/-- The events of cells with the given contents. -/
def cells (contents : List (List Event)) : List Event :=
  contents.flatMap (enclose .tableCell)

/-- The events of a table whose cells have the given contents. -/
def table (alignments : List Alignment) (head : List (List Event))
    (rows : List (List (List Event))) : List Event :=
  enclose (.table alignments)
    (enclose .tableHead (cells head) ++ rows.flatMap fun row => enclose .tableRow (cells row))

/-- Every element has its end, code blocks hold lines of text, and tables are made of one head and
rows of cells. Nothing else is asked of the events. -/
inductive Complete : List Event → Prop
  | nil : Complete []
  | leaf {event : Event} : event.isLeaf → Complete [event]
  | element {tag : Tag} {inner : List Event} :
      tag.isFree → Complete inner → Complete (enclose tag inner)
  | code (kind : CodeBlockKind) (lines : List Text) :
      Complete (enclose (.codeBlock kind) (lines.map .text))
  | table (alignments : List Alignment) {head : List (List Event)}
      {rows : List (List (List Event))} :
      (∀ cell ∈ head, Complete cell) → (∀ row ∈ rows, ∀ cell ∈ row, Complete cell) →
      Complete (table alignments head rows)
  | append {left right : List Event} :
      Complete left → Complete right → Complete (left ++ right)

theorem Complete.map {α : Type} (parts : List α) {event : α → Event}
    (isLeaf : ∀ part, (event part).isLeaf) : Complete (parts.map event) := by
  induction parts with
  | nil => exact nil
  | cons part parts induction => exact (leaf (isLeaf part)).append induction

end Document

namespace Html

open Document (Complete)

namespace Writer

variable {writer left right : Writer} {event : Event} {events inner : List Event}

/-! ## What a document leaves behind -/

theorem resumes_leaf (idle : writer.code = none) (isLeaf : event.isLeaf) :
    (writer.step event).1.Resumes writer := by
  cases event with
  | start tag => simp [Event.isLeaf] at isLeaf
  | finish tag => simp [Event.isLeaf] at isLeaf
  | text content =>
      simp only [step, idle]
      split <;> exact ⟨idle ▸ rfl, rfl, rfl⟩
  | code content =>
      simp only [step]
      split <;> exact ⟨rfl, rfl, rfl⟩
  | softBreak =>
      simp only [step]
      split <;> exact ⟨rfl, rfl, rfl⟩
  | _ => exact .refl writer

/-- A writer that is in no code block resumes behind the events what it was doing before them. -/
def Restores (events : List Event) : Prop :=
  ∀ writer : Writer, writer.code = none → (writer.run events).1.Resumes writer

namespace Restores

theorem nil : Restores [] :=
  fun writer _ => .refl writer

theorem append {front back : List Event} (first : Restores front) (second : Restores back) :
    Restores (front ++ back) := by
  intro writer idle
  have resumes := first writer idle
  rw [run_append]
  exact resumes.trans (second _ (resumes.code.trans idle))

theorem flatMap {α : Type} {parts : List α} {events : α → List Event}
    (each : ∀ part ∈ parts, Restores (events part)) : Restores (parts.flatMap events) := by
  induction parts with
  | nil => exact nil
  | cons part parts induction =>
      simp only [List.mem_cons, forall_eq_or_imp] at each
      exact each.1.append (induction each.2)

theorem single (step : ∀ writer : Writer, writer.code = none →
    (writer.step event).1.Resumes writer) : Restores [event] :=
  step

theorem frame {tag : Tag} (frame : tag.isFrame) (content : Restores inner) :
    Restores (enclose tag inner) := by
  intro writer idle
  have other : ∀ kind, tag ≠ .codeBlock kind := by
    rintro kind rfl
    simp [Tag.isFrame] at frame
  have resumes := content (writer.startTag tag).1 ((code_startTag other).trans idle)
  rw [run_enclose]
  exact resumes_endTag frame resumes

/-- The start and the end of a table, or of its head, change only the place in the table. -/
theorem tableOrHead {tag : Tag} (isOne : tag.isTable ∨ tag = .tableHead)
    (content : Restores inner) : Restores (enclose tag inner) := by
  have starts : Restores [.start tag] := by
    refine single fun writer _ => ?_
    cases tag with
    | table | tableHead => exact ⟨rfl, rfl, rfl⟩
    | _ => simp [Tag.isTable] at isOne
  have ends : Restores [.finish tag.toEnd] := by
    refine single fun writer _ => ?_
    cases tag with
    | table | tableHead => exact ⟨rfl, rfl, rfl⟩
    | _ => simp [Tag.isTable] at isOne
  exact starts.append (content.append ends)

theorem cells {contents : List (List Event)} (each : ∀ cell ∈ contents, Restores cell) :
    Restores (Document.cells contents) :=
  flatMap fun cell member => frame rfl (each cell member)

end Restores

theorem restores_of_complete (complete : Complete events) : Restores events := by
  induction complete with
  | nil => exact .nil
  | leaf isLeaf => exact .single fun _ idle => resumes_leaf idle isLeaf
  | @element tag inner isFree _ induction =>
      have frame : tag.isFrame := by
        cases tag <;> first | rfl | simp [Tag.isFree] at isFree
      exact .frame frame induction
  | code kind lines =>
      intro writer idle
      rw [run_codeBlock]
      exact ⟨idle.symm, rfl, rfl⟩
  | table alignments _ _ headInduction rowsInduction =>
      refine .tableOrHead (.inl rfl) (.append (.tableOrHead (.inr rfl) (.cells headInduction)) ?_)
      exact .flatMap fun row member => .frame rfl (.cells (rowsInduction row member))
  | append _ _ leftInduction rightInduction => exact leftInduction.append rightInduction

/-- Outside of images, the writer waits for no image and has no alternative text. -/
def Settled (writer : Writer) : Prop :=
  writer.imageDepth = 0 → writer.pendingImage = none ∧ writer.altText = []

theorem settled_step (settled : writer.Settled) (event : Event) :
    (writer.step event).1.Settled := by
  have within {text : Text} (inside : writer.inImage = true) : (writer.addAlt text).Settled := by
    intro outside
    have depth : writer.imageDepth = 0 := outside
    simp [inImage, depth] at inside
  cases event with
  | start tag =>
      cases tag with
      | image destination title =>
          intro outside
          have depth := (writer.startTag_image destination title).1
          rw [step, depth] at outside
          exact (Nat.succ_ne_zero _ outside).elim
      | list start => cases start <;> exact settled
      | _ => exact settled
  | finish tag =>
      cases tag with
      | blockQuote alert =>
          simp only [step, endTag]
          split <;> exact settled
      | codeBlock =>
          simp only [step, endTag]
          split <;> exact settled
      | image =>
          simp only [step, endTag]
          split
          · rename_i inside
            intro outside
            simp [inImage, show writer.imageDepth - 1 = 0 from outside] at inside
          · exact fun _ => ⟨rfl, rfl⟩
      | _ => exact settled
  | text content =>
      simp only [step]
      split
      · exact settled
      · split
        · exact within ‹_›
        · exact settled
  | code content =>
      simp only [step]
      split
      · exact within ‹_›
      · exact settled
  | softBreak =>
      simp only [step]
      split
      · exact within ‹_›
      · exact settled
  | _ => exact settled

theorem settled_run (settled : writer.Settled) (events : List Event) :
    (writer.run events).1.Settled := by
  induction events generalizing writer with
  | nil => exact settled
  | cons event events induction => exact induction (settled_step settled event)

/-! ## What a document looks at -/

/-- The writers differ at most in their places in a table. -/
def Agrees (left right : Writer) : Prop :=
  ∃ table, left = { right with table }

namespace Agrees

theorem refl (writer : Writer) : writer.Agrees writer :=
  ⟨writer.table, rfl⟩

theorem trans {first second third : Writer} (front : first.Agrees second)
    (back : second.Agrees third) : first.Agrees third := by
  obtain ⟨table, rfl⟩ := front
  obtain ⟨_, rfl⟩ := back
  exact ⟨table, rfl⟩

/-- Writers that agree write any event alike that is no start or end of a cell. -/
theorem step (agrees : left.Agrees right) (other : event.isCellTag = false) :
    (left.step event).2 = (right.step event).2 ∧
      (left.step event).1.Agrees (right.step event).1 := by
  obtain ⟨table, rfl⟩ := agrees
  have same : ({ right with table } : Writer).inImage = right.inImage := rfl
  cases event with
  | start tag =>
      cases tag with
      | tableCell => simp [Event.isCellTag] at other
      | list start => cases start <;> exact ⟨rfl, table, rfl⟩
      | table alignments => exact ⟨rfl, .refl _⟩
      | tableHead | tableRow => exact ⟨rfl, _, rfl⟩
      | image destination title =>
          simp only [Writer.step, startTag, same]
          split <;> exact ⟨rfl, table, rfl⟩
      | _ => exact ⟨rfl, table, rfl⟩
  | finish tag =>
      cases tag with
      | tableCell => simp [Event.isCellTag] at other
      | tableHead => exact ⟨rfl, _, rfl⟩
      | blockQuote alert =>
          simp only [Writer.step, endTag]
          split <;> exact ⟨rfl, table, rfl⟩
      | codeBlock =>
          simp only [Writer.step, endTag]
          split <;> exact ⟨rfl, table, rfl⟩
      | image =>
          let closed : Writer := { right with imageDepth := right.imageDepth - 1 }
          have sameClosed : ({ closed with table } : Writer).inImage = closed.inImage := rfl
          simp only [Writer.step, endTag, closed] at sameClosed ⊢
          rw [sameClosed]
          split <;> exact ⟨rfl, table, rfl⟩
      | _ => exact ⟨rfl, table, rfl⟩
  | text content =>
      simp only [Writer.step, same]
      split
      · exact ⟨rfl, table, rfl⟩
      · split <;> exact ⟨rfl, table, rfl⟩
  | code content =>
      simp only [Writer.step, same]
      split <;> exact ⟨rfl, table, rfl⟩
  | softBreak =>
      simp only [Writer.step, same]
      split <;> exact ⟨rfl, table, rfl⟩
  | _ => exact ⟨rfl, table, rfl⟩

end Agrees

/-- Writers that agree write the events alike, and agree behind them. -/
def Alike (events : List Event) : Prop :=
  ∀ left right : Writer, left.Agrees right →
    (left.run events).2 = (right.run events).2 ∧
      (left.run events).1.Agrees (right.run events).1

namespace Alike

theorem nil : Alike [] :=
  fun _ _ agrees => ⟨rfl, agrees⟩

theorem append {front back : List Event} (first : Alike front) (second : Alike back) :
    Alike (front ++ back) := by
  intro left right agrees
  obtain ⟨written, behind⟩ := first left right agrees
  obtain ⟨more, last⟩ := second _ _ behind
  simp only [run_append]
  exact ⟨by rw [written, more], last⟩

theorem of_forall (others : ∀ event ∈ events, event.isCellTag = false) : Alike events := by
  induction events with
  | nil => exact nil
  | cons event events induction =>
      simp only [List.mem_cons, forall_eq_or_imp] at others
      have single : Alike [event] := by
        intro left right agrees
        simpa [run] using agrees.step others.1
      exact single.append (induction others.2)

/-- A table forgets the places before it at its start, so it may hold anything. -/
theorem table (alignments : List Alignment) (inner : List Event) :
    Alike (enclose (.table alignments) inner) := by
  rintro left right ⟨table, rfl⟩
  exact ⟨rfl, .refl _⟩

theorem enclose {tag : Tag} (other : tag ≠ .tableCell) (content : Alike inner) :
    Alike (enclose tag inner) := by
  have starts : (Event.start tag).isCellTag = false := by
    cases tag <;> first | rfl | exact (other rfl).elim
  have ends : (Event.finish tag.toEnd).isCellTag = false := by
    cases tag <;> first | rfl | exact (other rfl).elim
  have opening : Alike [.start tag] := of_forall (by simpa using starts)
  have closing : Alike [.finish tag.toEnd] := of_forall (by simpa using ends)
  exact opening.append (content.append closing)

end Alike

theorem isCellTag_of_isLeaf (isLeaf : event.isLeaf) : event.isCellTag = false := by
  cases event with
  | start tag => simp [Event.isLeaf] at isLeaf
  | finish tag => simp [Event.isLeaf] at isLeaf
  | _ => rfl

theorem alike_of_complete (complete : Complete events) : Alike events := by
  induction complete with
  | nil => exact .nil
  | leaf isLeaf => exact .of_forall (by simpa using isCellTag_of_isLeaf isLeaf)
  | element isFree _ induction =>
      refine .enclose ?_ induction
      rintro rfl
      simp [Tag.isFree] at isFree
  | code kind lines => exact .enclose (by simp) (.of_forall (by simp [Event.isCellTag]))
  | table alignments => exact .table alignments _
  | append _ _ leftInduction rightInduction => exact leftInduction.append rightInduction

/-! ## One document after another -/

/-- A new writer, and one that has written documents, agree behind a complete document. -/
theorem agrees_run (complete : Complete events) (agrees : writer.Agrees {}) :
    (writer.run events).1.Agrees {} := by
  have resumes := restores_of_complete complete {} rfl
  have settled : Settled {} := fun _ => ⟨rfl, rfl⟩
  obtain ⟨pending, alternative⟩ := settled_run settled events resumes.imageDepth
  have behind := (alike_of_complete complete writer {} agrees).2
  -- The new writer comes back to what it remembered, which was nothing.
  refine behind.trans ⟨(({} : Writer).run events).1.table, ?_⟩
  obtain ⟨code, depth, quotes⟩ := resumes
  generalize (({} : Writer).run events).1 = last at *
  cases last
  simp_all

theorem renderAll_of_agrees {documents : List (List Event)}
    (complete : ∀ events ∈ documents, Complete events) (agrees : writer.Agrees {}) :
    writer.renderAll documents = documents.map Html.render := by
  induction documents generalizing writer with
  | nil => rfl
  | cons events documents induction =>
      simp only [List.mem_cons, forall_eq_or_imp] at complete
      have written := (alike_of_complete complete.1 writer {} agrees).1
      have rest := induction complete.2 (agrees_run complete.1 agrees)
      have first : (writer.render events).2 = Html.render events :=
        congrArg Piece.writeAll written
      rw [renderAll, List.map_cons, ← first, ← rest]
      rfl

end Writer

end Html

/-! ## Parsed documents -/

namespace Markdown

open Document (Complete)

mutual

theorem Inline.complete_events (piece : Inline) : Complete piece.events := by
  cases piece with
  | emphasis content => exact .element rfl (Inline.complete_eventsOfList content)
  | strong content => exact .element rfl (Inline.complete_eventsOfList content)
  | strikethrough content => exact .element rfl (Inline.complete_eventsOfList content)
  | link destination title content => exact .element rfl (Inline.complete_eventsOfList content)
  | image destination title content => exact .element rfl (Inline.complete_eventsOfList content)
  | _ => exact .leaf rfl

theorem Inline.complete_eventsOfList (pieces : List Inline) :
    Complete (Inline.eventsOfList pieces) := by
  cases pieces with
  | nil => exact .nil
  | cons piece pieces =>
      exact (Inline.complete_events piece).append (Inline.complete_eventsOfList pieces)

end

theorem flatMap_cellEvents (around : Surroundings) (row : List Prose) :
    row.flatMap (Prose.cellEvents around) = Document.cells (row.map fun cell =>
      Inline.eventsOfList (cell.inlines { around with inTable := true })) := by
  rw [Document.cells, List.flatMap_map]
  rfl

mutual

theorem Block.complete_events (definitions : List Definition) (tight : Bool)
    (containers : List Container) (block : Block) :
    Complete (block.events definitions tight containers) := by
  cases block with
  | paragraph prose =>
      rw [Block.events]
      split
      · exact Inline.complete_eventsOfList _
      · exact .element rfl (Inline.complete_eventsOfList _)
  | heading level prose => exact .element rfl (Inline.complete_eventsOfList _)
  | thematicBreak => exact .leaf rfl
  | code kind lines => exact .code kind lines
  | html lines => exact .element rfl (.map lines fun _ => rfl)
  | table alignments head rows =>
      let content := fun cell : Prose =>
        Inline.eventsOfList (cell.inlines ⟨definitions, containers, true⟩)
      have isTable : (Block.table alignments head rows).events definitions tight containers =
          Document.table alignments (head.map content) (rows.map (List.map content)) := by
        simp [Block.events, Document.table, flatMap_cellEvents, List.flatMap_map, content]
      rw [isTable]
      refine .table alignments ?_ ?_
      · simp [content, Inline.complete_eventsOfList]
      · simp [content, Inline.complete_eventsOfList]
  | quote alert content =>
      exact .element rfl (Block.complete_eventsOfList definitions false _ content)
  | list start tight items =>
      exact .element rfl (Block.complete_eventsOfList definitions tight _ items)
  | item indent content =>
      exact .element rfl (Block.complete_eventsOfList definitions tight _ content)
  | task checked => exact .leaf rfl

theorem Block.complete_eventsOfList (definitions : List Definition) (tight : Bool)
    (containers : List Container) (blocks : List Block) :
    Complete (Block.eventsOfList definitions tight containers blocks) := by
  cases blocks with
  | nil => exact .nil
  | cons block blocks =>
      exact (Block.complete_events definitions tight containers block).append
        (Block.complete_eventsOfList definitions tight containers blocks)

end

end Markdown

namespace Document

theorem map_showMarkup_cells (contents : List (List Event)) :
    (cells contents).map showMarkup = cells (contents.map (List.map showMarkup)) := by
  simp [cells, List.map_flatMap, List.flatMap_map, map_showMarkup_enclose, shownTag]

theorem Complete.map_showMarkup {events : List Event} (complete : Complete events) :
    Complete (events.map showMarkup) := by
  induction complete with
  | nil => exact nil
  | leaf isLeaf => exact leaf (isLeaf_showMarkup isLeaf)
  | @element tag inner isFree _ induction =>
      have shown : (shownTag tag).isFree := by
        cases tag <;> first | rfl | exact isFree
      rw [map_showMarkup_enclose]
      exact element shown induction
  | code kind lines =>
      have texts : (lines.map Event.text).map showMarkup = lines.map .text := by
        rw [List.map_map]
        rfl
      rw [map_showMarkup_enclose, texts]
      exact code kind lines
  | @table alignments head rows _ _ headInduction rowsInduction =>
      have shown : (Document.table alignments head rows).map showMarkup =
          Document.table alignments (head.map (List.map showMarkup))
            (rows.map (List.map (List.map showMarkup))) := by
        simp [Document.table, map_showMarkup_enclose, map_showMarkup_cells, shownTag,
          List.map_flatMap, List.flatMap_map]
      rw [shown]
      refine table alignments ?_ ?_
      · simpa using headInduction
      · simpa using rowsInduction
  | append _ _ leftInduction rightInduction =>
      rw [List.map_append]
      exact leftInduction.append rightInduction

/-- Every Markdown text is parsed as a complete document. -/
theorem complete_parse (markdown : Text) : Complete (parse markdown) :=
  (Markdown.Block.complete_eventsOfList _ false [] _).map_showMarkup

end Document

/-! ## One writer for many documents -/

namespace Html.Writer

open Document (Complete parse)

/-- One writer writes complete documents one after the other, each as a new writer does. Every
Markdown text is parsed as such a document. -/
theorem renderAll_eq_map :
    (∀ documents : List (List Event), (∀ events ∈ documents, Complete events) →
      ({} : Writer).renderAll documents = documents.map Html.render) ∧
    ∀ texts : List Text, ({} : Writer).renderAll (texts.map parse) =
      texts.map fun markdown => Html.render (parse markdown) := by
  refine ⟨fun documents complete => renderAll_of_agrees complete (.refl _), fun texts => ?_⟩
  have complete : ∀ events ∈ texts.map parse, Complete events := by
    simp [Document.complete_parse]
  rw [renderAll_of_agrees complete (.refl _), List.map_map]
  rfl

theorem renderAll_eq_map_tables :
    let table := Document.table [.right] [[.text "a"]] [[[.text "b"], [.html "<hr>"]]]
    let quote := enclose (.blockQuote (some .tip)) (enclose (.image "x.png" []) [.text "c"])
    let narrow := Document.table [] [[.text "d"]] []
    ({} : Writer).renderAll [table, quote, narrow] =
      ["<table><thead><tr><th style=\"text-align:right\">a</th></tr></thead><tbody>".toList ++
          "<tr><td style=\"text-align:right\">b</td><td><hr></td></tr></tbody></table>".toList,
        "<div class=\"alert alert-tip\"><p class=\"alert-title\">Tip</p>".toList ++
          "<img src=\"x.png\" alt=\"c\"></div>".toList,
        "<table><thead><tr><th>d</th></tr></thead><tbody></tbody></table>".toList] := by
  intro table quote narrow
  have complete : ∀ events ∈ [table, quote, narrow], Complete events := by
    have text (content : Text) : Complete [.text content] := .leaf rfl
    have markup (written : Text) : Complete [.html written] := .leaf rfl
    simp only [List.mem_cons, List.not_mem_nil, or_false, forall_eq_or_imp, forall_eq]
    refine ⟨.table _ ?_ ?_, .element rfl (.element rfl (text _)), .table _ ?_ ?_⟩
    · simp [text]
    · simp [text, markup]
    · simp [text]
    · simp
  rw [renderAll_eq_map.1 _ complete]
  clear complete
  decide +kernel +revert

end Html.Writer

end DocSite
