import DocSite.Proofs.Document.Balance
import DocSite.Proofs.Document.ImageText
import DocSite.Proofs.Document.Reuse

/-!
# Tables as they are written

What is written for running text depends on whether it stands in a code block and in how many
images, and on nothing else that a writer remembers. So the cells of a table are written as if each
were the first one, in tags that only the place in the table decides: whether that is in the head,
and in which column.
-/

namespace DocSite

open Html (Piece Writer)
open Markdown (enclose)

namespace Document

/-- The events are those of well nested running text. -/
def IsRunningText (events : List Event) : Prop :=
  WellNested events ∧ ∀ event ∈ events, event.isInline

end Document

/-! ## Running text -/

namespace Html.Writer

open Document (WellNested IsRunningText)

variable {writer left right : Writer} {inCode : Bool} {depth : Nat} {event : Event}
  {events inner : List Event} {pieces : List Piece} {alt : Text}

/-- The writer is in a code block or in none, and in a number of images. -/
structure IsIn (writer : Writer) (inCode : Bool) (depth : Nat) : Prop where
  code : writer.code.isSome = inCode
  imageDepth : writer.imageDepth = depth

/-- The writer writes some pieces for the events and comes back to a place of the same kind. In an
image it adds to the alternative text, and goes on waiting for the outermost image. -/
structure Writes (writer : Writer) (events : List Event) (pieces : List Piece) (alt : Text) :
    Prop where
  pieces : (writer.run events).2 = pieces
  code : (writer.run events).1.code.isSome = writer.code.isSome
  imageDepth : (writer.run events).1.imageDepth = writer.imageDepth
  altText : writer.inImage → (writer.run events).1.altText = writer.altText ++ alt
  pending : writer.inImage → (writer.run events).1.pendingImage = writer.pendingImage

namespace Writes

theorem isIn (writes : writer.Writes events pieces alt) (isIn : writer.IsIn inCode depth) :
    (writer.run events).1.IsIn inCode depth :=
  ⟨writes.code.trans isIn.code, writes.imageDepth.trans isIn.imageDepth⟩

theorem append {back : List Event} {more : List Piece} {moreAlt : Text}
    (first : writer.Writes events pieces alt)
    (second : (writer.run events).1.Writes back more moreAlt) :
    writer.Writes (events ++ back) (pieces ++ more) (alt ++ moreAlt) := by
  have inside : (writer.run events).1.inImage = writer.inImage := by
    rw [inImage, inImage, first.imageDepth]
  constructor
  case pieces => rw [run_append, first.pieces, second.pieces]
  case code => rw [run_append, second.code, first.code]
  case imageDepth => rw [run_append, second.imageDepth, first.imageDepth]
  case altText =>
    intro image
    rw [run_append, second.altText (inside.trans image), first.altText image, List.append_assoc]
  case pending =>
    intro image
    rw [run_append, second.pending (inside.trans image), first.pending image]

/-- An event that changes nothing but the alternative text. -/
theorem addAlt (step : writer.step event = (writer.addAlt alt, pieces)) :
    writer.Writes [event] pieces alt := by
  constructor <;> simp [run, step, Writer.addAlt]

end Writes

/-- All writers in places of one kind write the same for the events. -/
def Uniform (inCode : Bool) (depth : Nat) (events : List Event) : Prop :=
  ∃ pieces alt, ∀ writer : Writer, writer.IsIn inCode depth → writer.Writes events pieces alt

namespace Uniform

theorem run_eq (uniform : Uniform inCode depth events) (leftIn : left.IsIn inCode depth)
    (rightIn : right.IsIn inCode depth) : (left.run events).2 = (right.run events).2 := by
  obtain ⟨pieces, alt, writes⟩ := uniform
  rw [(writes left leftIn).pieces, (writes right rightIn).pieces]

theorem isIn_run (uniform : Uniform inCode depth events) (isIn : writer.IsIn inCode depth) :
    (writer.run events).1.IsIn inCode depth := by
  obtain ⟨pieces, alt, writes⟩ := uniform
  exact (writes writer isIn).isIn isIn

theorem nil : Uniform inCode depth [] :=
  ⟨[], [], fun _ _ => ⟨rfl, rfl, rfl, fun _ => (List.append_nil _).symm, fun _ => rfl⟩⟩

theorem append {front back : List Event} (first : Uniform inCode depth front)
    (second : Uniform inCode depth back) : Uniform inCode depth (front ++ back) := by
  obtain ⟨pieces, alt, writes⟩ := first
  obtain ⟨more, moreAlt, writesMore⟩ := second
  refine ⟨pieces ++ more, alt ++ moreAlt, fun writer isIn => ?_⟩
  exact (writes writer isIn).append (writesMore _ ((writes writer isIn).isIn isIn))

theorem same (step : ∀ writer : Writer, writer.step event = (writer, pieces)) :
    Uniform inCode depth [event] :=
  ⟨pieces, [], fun writer _ => .addAlt (by rw [step, addAlt_nil])⟩

/-- An event that is shown outside of images, and adds to the alternative text inside of them. -/
theorem shown (pieces : List Piece) (alt : Text)
    (step : ∀ writer : Writer, writer.code.isSome = inCode → writer.step event =
      if writer.inImage then (writer.addAlt alt, []) else (writer, pieces)) :
    Uniform inCode depth [event] := by
  by_cases outside : depth = 0
  · refine ⟨pieces, [], fun writer isIn => .addAlt ?_⟩
    have image : writer.inImage = false := by simp [inImage, isIn.imageDepth, outside]
    rw [step writer isIn.code, image, addAlt_nil]
    rfl
  · refine ⟨[], alt, fun writer isIn => .addAlt ?_⟩
    have image : writer.inImage = true := by simp [inImage, isIn.imageDepth, outside]
    rw [step writer isIn.code, image]
    rfl

/-- Text in a code block is kept for the end of the block, and other text is shown. -/
theorem text (content : Text) : Uniform inCode depth [.text content] := by
  cases inCode with
  | true =>
      refine ⟨[], [], fun writer isIn => ?_⟩
      obtain ⟨code, inside⟩ := Option.isSome_iff_exists.mp isIn.code
      constructor <;> simp [run, step, inside]
  | false =>
      refine shown [.text content] content fun writer outside => ?_
      have idle : writer.code = none := by simpa using outside
      simp only [step, idle]

theorem markup {tag : Tag} {opening closing : Piece}
    (starts : ∀ writer : Writer, writer.startTag tag = (writer, writer.inlineMarkup [opening]))
    (ends : ∀ writer : Writer,
      writer.endTag tag.toEnd = (writer, writer.inlineMarkup [closing]))
    (content : Uniform inCode depth inner) : Uniform inCode depth (enclose tag inner) := by
  have shown {event : Event} {piece : Piece}
      (step : ∀ writer : Writer, writer.step event = (writer, writer.inlineMarkup [piece])) :
      Uniform inCode depth [event] := by
    refine .shown [piece] [] fun writer _ => ?_
    rw [step, addAlt_nil, inlineMarkup]
    split <;> rfl
  have opens : Uniform inCode depth [.start tag] := shown starts
  have closes : Uniform inCode depth [.finish tag.toEnd] := shown ends
  exact opens.append (content.append closes)

/-- An image is written at its end, unless it is inside another one. -/
theorem image (destination title : Text) (content : Uniform inCode (depth + 1) inner) :
    Uniform inCode depth (enclose (.image destination title) inner) := by
  obtain ⟨pieces, alt, writes⟩ := content
  cases depth with
  | zero =>
      refine ⟨pieces ++ [imagePiece destination alt title], [], fun writer isIn => ?_⟩
      have outside : writer.inImage = false := by simp [inImage, isIn.imageDepth]
      obtain ⟨opened, opens, code, one, empty, waits⟩ : ∃ opened,
          writer.startTag (.image destination title) = (opened, []) ∧
            opened.code = writer.code ∧ opened.imageDepth = 1 ∧ opened.altText = [] ∧
            opened.pendingImage = some (destination, title) := by
        simp [startTag, outside]
      have inside : opened.inImage := by simp [inImage, one]
      have written := writes opened ⟨code ▸ isIn.code, one⟩
      have altText : (opened.run inner).1.altText = alt := by simp [written.altText inside, empty]
      have closes : (opened.run inner).1.endTag .image =
          ({ (opened.run inner).1 with imageDepth := 0, altText := [], pendingImage := none },
            [imagePiece destination alt title]) := by
        simp [endTag, inImage, written.imageDepth, one, written.pending inside, waits, altText]
      constructor <;>
        simp [run_enclose, opens, Tag.toEnd, closes, written.pieces, written.code, code,
          isIn.imageDepth, outside]
  | succ depth =>
      refine ⟨pieces, alt, fun writer isIn => ?_⟩
      have outside : writer.inImage := by simp [inImage, isIn.imageDepth]
      obtain ⟨opened, opens, code, deeper, altText, waits⟩ : ∃ opened,
          writer.startTag (.image destination title) = (opened, []) ∧
            opened.code = writer.code ∧ opened.imageDepth = depth + 1 + 1 ∧
            opened.altText = writer.altText ∧ opened.pendingImage = writer.pendingImage := by
        simp [startTag, outside, isIn.imageDepth]
      have inside : opened.inImage := by simp [inImage, deeper]
      have written := writes opened ⟨code ▸ isIn.code, deeper⟩
      have closes : (opened.run inner).1.endTag .image =
          ({ (opened.run inner).1 with imageDepth := depth + 1 }, []) := by
        simp [endTag, inImage, written.imageDepth, deeper]
      constructor <;>
        simp [run_enclose, opens, Tag.toEnd, closes, written.pieces, written.code, code,
          isIn.imageDepth, written.altText inside, altText, written.pending inside, waits]

theorem leaf (isLeaf : event.isLeaf) (inline : event.isInline) : Uniform inCode depth [event] := by
  cases event with
  | start tag => simp [Event.isLeaf] at isLeaf
  | finish tag => simp [Event.isLeaf] at isLeaf
  | html markup => simp [Event.isInline] at inline
  | rule => simp [Event.isInline] at inline
  | text content => exact .text content
  | code content => exact .shown _ content fun _ _ => rfl
  | softBreak => exact .shown _ _ fun _ _ => rfl
  | _ => exact .same fun _ => rfl

end Uniform

/-- Running text is written alike by all writers in places of one kind. -/
theorem uniform_of_wellNested (nested : WellNested events)
    (inline : ∀ event ∈ events, event.isInline) : Uniform inCode depth events := by
  induction nested generalizing depth with
  | nil => exact .nil
  | leaf isLeaf => exact .leaf isLeaf (inline _ List.mem_cons_self)
  | @element tag inner _ _ induction =>
      obtain ⟨opens, inlineInner, -⟩ := (Markdown.forall_mem_enclose tag inner).mp inline
      cases tag with
      | emphasis | strong | strikethrough | superscript | subscript | link _ _ =>
          exact .markup (fun _ => rfl) (fun _ => rfl) (induction inlineInner)
      | image destination title => exact .image destination title (induction inlineInner)
      | _ => simp [Event.isInline] at opens
  | append _ _ leftInduction rightInduction =>
      simp only [List.mem_append, or_imp, forall_and] at inline
      exact (leftInduction inline.1).append (rightInduction inline.2)

end Html.Writer

/-! ## The form of a table -/

namespace Html

/-- The attribute that aligns the cells of a column, if it has an alignment. -/
def alignmentText : Option Alignment → Text
  | some .left => " style=\"text-align:left\""
  | some .center => " style=\"text-align:center\""
  | some .right => " style=\"text-align:right\""
  | some .none | none => ""

/-- A cell element around its content. -/
def cellText (name : Text) (alignment : Option Alignment) (content : Text) : Text :=
  "<" ++ name ++ alignmentText alignment ++ ">" ++ content ++ "</" ++ name ++ ">"

/-- Cells next to each other, the first of which is in a given column. Behind the last column that
has an alignment there may be others. -/
def cellsText (name : Text) (alignments : List Alignment) (first : Nat) (contents : List Text) :
    Text :=
  (contents.mapIdx fun place content =>
    cellText name alignments[first + place]? content).flatten

/-- A row of cells, which begins with the first column. -/
def rowText (name : Text) (alignments : List Alignment) (contents : List Text) : Text :=
  "<tr>" ++ cellsText name alignments 0 contents ++ "</tr>"

/-- The head of a table, and the start of its body. -/
def headText (alignments : List Alignment) (head : List Text) : Text :=
  "<thead>" ++ rowText "th" alignments head ++ "</thead><tbody>"

/-- A table with a head and rows below it. -/
def tableText (alignments : List Alignment) (head : List Text) (rows : List (List Text)) : Text :=
  "<table>" ++ headText alignments head ++ rows.flatMap (rowText "td" alignments) ++
    "</tbody></table>"

theorem cellsText_cons (name : Text) (alignments : List Alignment) (first : Nat) (content : Text)
    (contents : List Text) :
    cellsText name alignments first (content :: contents) =
      cellText name alignments[first]? content ++
        cellsText name alignments (first + 1) contents := by
  simp [cellsText, List.mapIdx_cons, Nat.add_assoc, Nat.add_comm 1]

theorem TableCursor.write_cellStyle (cursor : TableCursor) :
    cursor.cellStyle.flatMap Attribute.write = alignmentText cursor.alignments[cursor.column]? := by
  simp only [cellStyle]
  cases cursor.alignments[cursor.column]? with
  | none => rfl
  | some alignment => cases alignment <;> decide

/-! ## Cells and rows -/

namespace Writer

open Document (IsRunningText)

variable {writer like : Writer} {inCode : Bool} {depth : Nat} {events : List Event} {text : Text}
  {table : TableCursor} {cell : List Event} {contents : List (List Event)}

theorem fst_render (writer : Writer) (events : List Event) :
    (writer.render events).1 = (writer.run events).1 :=
  rfl

/-- An element is written as its start, its content and its end. -/
theorem render_enclose (writer : Writer) (tag : Tag) (events : List Event) :
    (writer.render (enclose tag events)).2 =
      Piece.writeAll (writer.startTag tag).2 ++ (((writer.startTag tag).1.render events).2 ++
        Piece.writeAll (((writer.startTag tag).1.run events).1.endTag tag.toEnd).2) := by
  simp [render, run_enclose, Piece.writeAll]

/-- The writer writes a text for the events, comes back to a place of the same kind, and goes on at
a place in the table. -/
structure Fills (writer : Writer) (inCode : Bool) (depth : Nat) (events : List Event)
    (text : Text) (table : TableCursor) : Prop where
  text : (writer.render events).2 = text
  isIn : (writer.run events).1.IsIn inCode depth
  table : (writer.run events).1.table = table

theorem Fills.append {back : List Event} {more : Text} {last : TableCursor}
    (first : writer.Fills inCode depth events text table)
    (second : (writer.run events).1.Fills inCode depth back more last) :
    writer.Fills inCode depth (events ++ back) (text ++ more) last := by
  constructor
  case text =>
    rw [render_append, fst_render, first.text, second.text]
  case isIn =>
    rw [run_append]
    exact second.isIn
  case table =>
    rw [run_append]
    exact second.table

/-- A cell takes one column, whatever stands in it. -/
theorem fills_cell (running : IsRunningText cell) (isIn : writer.IsIn inCode depth)
    (likeIn : like.IsIn inCode depth) :
    writer.Fills inCode depth (enclose .tableCell cell)
      (cellText writer.table.cellName writer.table.alignments[writer.table.column]?
        (like.render cell).2)
      { writer.table with column := writer.table.column + 1 } := by
  have uniform : Uniform inCode depth cell := uniform_of_wellNested running.1 running.2
  have kept : (writer.run cell).1.table = writer.table := Document.table_run writer running.2
  have behind := uniform.isIn_run isIn
  constructor
  case text =>
    have same := uniform.run_eq isIn likeIn
    have opening : Piece.writeAll [.startTag writer.table.cellName writer.table.cellStyle] =
        "<" ++ writer.table.cellName ++
          alignmentText writer.table.alignments[writer.table.column]? ++ ">" := by
      rw [← TableCursor.write_cellStyle]
      exact List.append_nil _
    have closing : Piece.writeAll [.endTag writer.table.cellName] =
      "</" ++ writer.table.cellName ++ ">" := List.append_nil _
    rw [render_enclose]
    simp only [render, startTag, endTag, Tag.toEnd, kept, same, opening, closing, cellText,
      List.append_assoc]
  case isIn =>
    simp only [run_enclose, startTag, endTag, Tag.toEnd]
    exact ⟨behind.code, behind.imageDepth⟩
  case table => simp [run_enclose, startTag, endTag, Tag.toEnd, kept]

theorem fills_cells (running : ∀ cell ∈ contents, IsRunningText cell)
    (isIn : writer.IsIn inCode depth) (likeIn : like.IsIn inCode depth) :
    writer.Fills inCode depth (Document.cells contents)
      (cellsText writer.table.cellName writer.table.alignments writer.table.column
        (contents.map fun cell => (like.render cell).2))
      { writer.table with column := writer.table.column + contents.length } := by
  induction contents generalizing writer with
  | nil => exact ⟨rfl, isIn, rfl⟩
  | cons cell contents induction =>
      simp only [List.mem_cons, forall_eq_or_imp] at running
      have first := fills_cell running.1 isIn likeIn
      have others := induction running.2 first.isIn
      have whole := first.append others
      simp only [first.table, Nat.add_assoc, Nat.add_comm 1] at whole
      rw [List.map_cons, cellsText_cons, List.length_cons]
      exact whole

/-- A row begins with the first column, wherever the writer was in the table before. -/
theorem fills_row (running : ∀ cell ∈ contents, IsRunningText cell)
    (isIn : writer.IsIn inCode depth) (likeIn : like.IsIn inCode depth) :
    writer.Fills inCode depth (enclose .tableRow (Document.cells contents))
      (rowText writer.table.cellName writer.table.alignments
        (contents.map fun cell => (like.render cell).2))
      { writer.table with column := contents.length } := by
  let opened : Writer := { writer with table := { writer.table with column := 0 } }
  have opens : writer.startTag .tableRow = (opened, [.startTag "tr" []]) := rfl
  have openedIn : opened.IsIn inCode depth := ⟨isIn.code, isIn.imageDepth⟩
  have cells := fills_cells running openedIn likeIn
  constructor
  case text =>
    have opening : Piece.writeAll [.startTag "tr" []] = ("<tr>" : Text) := by decide
    have closing : Piece.writeAll [.endTag "tr"] = ("</tr>" : Text) := by decide
    unfold rowText
    rw [render_enclose, opens, cells.text]
    simp only [endTag, Tag.toEnd, opening, closing, List.append_assoc]
    rfl
  case isIn =>
    simp only [run_enclose, opens, endTag, Tag.toEnd]
    exact cells.isIn
  case table =>
    simp only [run_enclose, opens, endTag, Tag.toEnd, cells.table, opened, Nat.zero_add]

/-- The head is a row of head cells. Behind it, the writer is in the body of the table. -/
theorem fills_head (running : ∀ cell ∈ contents, IsRunningText cell)
    (isIn : writer.IsIn inCode depth) (likeIn : like.IsIn inCode depth) :
    writer.Fills inCode depth (enclose .tableHead (Document.cells contents))
      (headText writer.table.alignments (contents.map fun cell => (like.render cell).2))
      { writer.table with inHead := false, column := contents.length } := by
  let opened : Writer :=
    { writer with table := { writer.table with inHead := true, column := 0 } }
  have opens : writer.startTag .tableHead =
    (opened, [.startTag "thead" [], .startTag "tr" []]) := rfl
  have openedIn : opened.IsIn inCode depth := ⟨isIn.code, isIn.imageDepth⟩
  have cells := fills_cells running openedIn likeIn
  constructor
  case text =>
    have opening : Piece.writeAll [.startTag "thead" [], .startTag "tr" []] =
      ("<thead>" ++ "<tr>" : Text) := by decide
    have closing : Piece.writeAll [.endTag "tr", .endTag "thead", .startTag "tbody" []] =
      ("</tr>" ++ "</thead><tbody>" : Text) := by decide
    unfold headText rowText
    rw [render_enclose, opens, cells.text]
    simp only [endTag, Tag.toEnd, opening, closing, List.append_assoc]
    rfl
  case isIn =>
    simp only [run_enclose, opens, endTag, Tag.toEnd]
    exact ⟨cells.isIn.code, cells.isIn.imageDepth⟩
  case table =>
    simp only [run_enclose, opens, endTag, Tag.toEnd, cells.table, opened, Nat.zero_add]

/-- In the body of a table, each row begins anew with the first column. -/
theorem render_rows {rows : List (List (List Event))}
    (running : ∀ row ∈ rows, ∀ cell ∈ row, IsRunningText cell) (body : writer.table.inHead = false)
    (isIn : writer.IsIn inCode depth) (likeIn : like.IsIn inCode depth) :
    (writer.render (rows.flatMap fun row => enclose .tableRow (Document.cells row))).2 =
      (rows.map (List.map fun cell => (like.render cell).2)).flatMap
        (rowText "td" writer.table.alignments) := by
  induction rows generalizing writer with
  | nil => rfl
  | cons row rows induction =>
      simp only [List.mem_cons, forall_eq_or_imp] at running
      have first := fills_row running.1 isIn likeIn
      have name : writer.table.cellName = "td" := by rw [TableCursor.cellName, body]; rfl
      have others := induction running.2 (first.table ▸ body) first.isIn
      rw [first.table] at others
      rw [List.flatMap_cons, render_append, fst_render, first.text, others, name]
      rfl

end Writer

end Html

/-! ## Tables -/

namespace Document

open Html (tableText)

variable {head : List (List Event)} {rows : List (List (List Event))}

/-- Writers in places of one kind write a table around what any of them writes for its cells. -/
theorem render_table_of_isIn {writer like : Writer} {inCode : Bool} {depth : Nat}
    (alignments : List Alignment) (running : ∀ cell ∈ head ++ rows.flatten, IsRunningText cell)
    (isIn : writer.IsIn inCode depth) (likeIn : like.IsIn inCode depth) :
    (writer.render (table alignments head rows)).2 =
      tableText alignments (head.map fun cell => (like.render cell).2)
        (rows.map (List.map fun cell => (like.render cell).2)) := by
  have inHead : ∀ cell ∈ head, IsRunningText cell := fun cell member =>
    running cell (List.mem_append_left _ member)
  have inBody : ∀ row ∈ rows, ∀ cell ∈ row, IsRunningText cell := fun row among cell member =>
    running cell (List.mem_append_right _ (List.mem_flatten.mpr ⟨row, among, member⟩))
  -- Whatever place in a table the writer remembers, the start of this one takes it back.
  let opened : Writer := { writer with table := { alignments } }
  have opens : writer.startTag (.table alignments) = (opened, [.startTag "table" []]) := rfl
  have openedIn : opened.IsIn inCode depth := ⟨isIn.code, isIn.imageDepth⟩
  have first := Writer.fills_head inHead openedIn likeIn
  have others := Writer.render_rows inBody (by rw [first.table]) first.isIn likeIn
  have opening : Piece.writeAll [.startTag "table" []] = ("<table>" : Text) := by decide
  have closing : Piece.writeAll [.endTag "tbody", .endTag "table"] = ("</tbody></table>" : Text) :=
    by decide
  unfold tableText
  rw [table, Writer.render_enclose, opens, Writer.render_append, Writer.fst_render, first.text,
    others, first.table]
  simp only [Writer.endTag, Tag.toEnd, opening, closing, List.append_assoc]
  rfl

/-- A table is written with one element for each of its cells, in order: a head cell in the head and
a plain one elsewhere, with the alignment of the column with the same number. Rows may be shorter or
longer than the list of alignments, and what has been written before makes no difference: outside
of code blocks and images, each cell holds what its content is written as by itself. -/
theorem render_table (writer : Writer) (previous : List Event) (alignments : List Alignment)
    (running : ∀ cell ∈ head ++ rows.flatten, IsRunningText cell) :
    let reached := (writer.run previous).1
    let written := fun cell => (reached.render cell).2
    (writer.render (previous ++ table alignments head rows)).2 =
        (writer.render previous).2 ++
          tableText alignments (head.map written) (rows.map (List.map written)) ∧
      (reached.code = none → reached.imageDepth = 0 →
        ∀ cell ∈ head ++ rows.flatten, written cell = Html.render cell) := by
  intro reached written
  refine ⟨?whole, ?byItself⟩
  case whole =>
    rw [Writer.render_append, Writer.fst_render,
      render_table_of_isIn alignments running ⟨rfl, rfl⟩ ⟨rfl, rfl⟩]
  case byItself =>
    intro idle outside cell member
    have isIn : reached.IsIn false 0 := ⟨by rw [idle]; rfl, outside⟩
    have isNew : ({} : Writer).IsIn false 0 := ⟨rfl, rfl⟩
    obtain ⟨nested, inline⟩ := running cell member
    exact congrArg Piece.writeAll
      ((Writer.uniform_of_wellNested nested inline).run_eq isIn isNew)

/-- Behind a table that has been cut off in its head: rows that are longer and shorter than the list
of alignments, and cells with an image, with code and with nothing. -/
theorem render_table_behind_cut :
    let cut : List Event := [.start (.table [.right]), .start .tableHead, .start .tableCell,
      .text "x", .finish .tableCell]
    let icon := enclose (.image "i.png" "") [.text "a"]
    let head : List (List Event) := [[.text "A"], icon, [.code "c"]]
    let rows : List (List (List Event)) := [[], [[], [.text "<"], icon]]
    (∀ cell ∈ head ++ rows.flatten, IsRunningText cell) ∧
      (({} : Writer).render (cut ++ table [.left, .none] head rows)).2 =
        (({} : Writer).render cut).2 ++
          ("<table><thead><tr><th style=\"text-align:left\">A</th>" ++
            "<th><img src=\"i.png\" alt=\"a\"></th><th><code>c</code></th></tr></thead>" ++
            "<tbody><tr></tr><tr><td style=\"text-align:left\"></td><td>&lt;</td>" ++
            "<td><img src=\"i.png\" alt=\"a\"></td></tr></tbody></table>" : Text) ∧
      ((({} : Writer).run cut).1.render icon).2 = Html.render icon := by
  intro cut icon head rows
  have isText (content : Text) : IsRunningText [.text content] :=
    ⟨.leaf rfl, List.forall_mem_singleton.mpr rfl⟩
  have isCode (content : Text) : IsRunningText [.code content] :=
    ⟨.leaf rfl, List.forall_mem_singleton.mpr rfl⟩
  have isIcon : IsRunningText icon := ⟨.element trivial (.leaf rfl), by decide⟩
  have isEmpty : IsRunningText [] := ⟨.nil, by decide⟩
  have running : ∀ cell ∈ head ++ rows.flatten, IsRunningText cell := by
    simp [head, rows, isText, isCode, isIcon, isEmpty]
  obtain ⟨whole, byItself⟩ := render_table {} cut [.left, .none] running
  refine ⟨running, whole.trans ?_, byItself rfl rfl icon (by simp [head])⟩
  decide +kernel

end Document

end DocSite
