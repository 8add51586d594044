import DocSite.Markdown.Inline
import DocSite.Proofs.Html.Tags

/-!
# Elements that the writer opens and closes

The tags at the end of an element are chosen by the end alone and by what the writer remembers
there. They fit those at its start if the writer has come back to what it remembered when the
content began.
-/

namespace DocSite

/-- Whether an element is opened at its start and closed at its end. A code block is written at its
end, and the body of a table is opened at the end of the head. -/
def Tag.isFrame : Tag → Bool
  | .codeBlock _ | .table _ | .tableHead => false
  | _ => true

namespace Html

open Piece (IsPlainElement)

namespace Writer

variable {writer last : Writer} {opened : List Text}

/-- The later writer closes the same elements as the earlier one. Its alternative text, the image
that it waits for and its place in a table may be others. -/
structure Resumes (later earlier : Writer) : Prop where
  code : later.code = earlier.code
  imageDepth : later.imageDepth = earlier.imageDepth
  quotes : later.quotes = earlier.quotes

namespace Resumes

theorem refl (writer : Writer) : writer.Resumes writer :=
  ⟨rfl, rfl, rfl⟩

theorem trans {later earlier : Writer} (first : earlier.Resumes writer)
    (second : later.Resumes earlier) : later.Resumes writer :=
  ⟨second.code.trans first.code, second.imageDepth.trans first.imageDepth,
    second.quotes.trans first.quotes⟩

theorem inImage_eq {later earlier : Writer} (resumes : later.Resumes earlier) :
    later.inImage = earlier.inImage := by
  rw [inImage, inImage, resumes.imageDepth]

end Resumes

/-! ## Starts and ends -/

/-- The name of an element within a line, which is not opened inside an image. -/
def inlineNames (writer : Writer) (name : Text) : List Text :=
  if writer.inImage then [] else [name]

/-- The elements that a start opens, innermost first. -/
def openedBy (writer : Writer) : Tag → List Text
  | .paragraph => ["p"]
  | .heading level _ => [headingName level]
  | .blockQuote (some _) => ["div"]
  | .blockQuote none => ["blockquote"]
  | .list (some _) => ["ol"]
  | .list none => ["ul"]
  | .item => ["li"]
  | .definitionList => ["dl"]
  | .definitionTitle => ["dt"]
  | .definitionBody => ["dd"]
  | .table _ => ["table"]
  | .tableHead => ["tr", "thead"]
  | .tableRow => ["tr"]
  | .tableCell => [writer.table.cellName]
  | .emphasis => writer.inlineNames "em"
  | .strong => writer.inlineNames "strong"
  | .strikethrough => writer.inlineNames "del"
  | .superscript => writer.inlineNames "sup"
  | .subscript => writer.inlineNames "sub"
  | .link _ _ => writer.inlineNames "a"
  | .codeBlock _ | .image _ _ | .htmlBlock | .footnoteDefinition _ | .metadataBlock => []

theorem isPlainElement_headingName (level : HeadingLevel) : IsPlainElement (headingName level) := by
  cases level <;> decide

theorem isPlainElement_cellName (cursor : TableCursor) : IsPlainElement cursor.cellName := by
  unfold TableCursor.cellName
  split <;> decide

theorem link_of_mem_openedBy {tag : Tag} (opens : ("a" : Text) ∈ writer.openedBy tag) :
    ∃ destination title, tag = .link destination title := by
  have plain {name : Text} (isPlain : IsPlainElement name) : ("a" : Text) ∉ [name] := by
    simpa using isPlain.2.2.symm
  have inline {name : Text} (isPlain : IsPlainElement name) :
      ("a" : Text) ∉ writer.inlineNames name := by
    unfold inlineNames
    split
    · simp
    · exact plain isPlain
  cases tag with
  | link destination title => exact ⟨destination, title, rfl⟩
  | heading level id => exact (plain (isPlainElement_headingName level) opens).elim
  | tableCell => exact (plain (isPlainElement_cellName _) opens).elim
  | blockQuote alert => cases alert <;> exact absurd opens (by simp [openedBy])
  | list start => cases start <;> exact absurd opens (by simp [openedBy])
  | emphasis | strong | strikethrough | superscript | subscript =>
      exact (inline (by decide) opens).elim
  | _ => exact absurd opens (by simp [openedBy])

private theorem leads_opening {name : Text} (isPlain : IsPlainElement name)
    (attributes : List Attribute) :
    Piece.Leads opened [.startTag name attributes] (name :: opened) :=
  (Piece.Leads.startTag_cons attributes isPlain).mpr (.refl _)

private theorem leads_inline_opening {name : Text} (isPlain : IsPlainElement name) :
    Piece.Leads opened (writer.inlineMarkup [.startTag name []])
      (writer.inlineNames name ++ opened) := by
  unfold inlineMarkup inlineNames
  split
  · exact Piece.Leads.refl _
  · exact leads_opening isPlain []

theorem leads_startTag {tag : Tag}
    (outside : ∀ destination title, tag = .link destination title → ("a" : Text) ∉ opened) :
    Piece.Leads opened (writer.startTag tag).2 (writer.openedBy tag ++ opened) := by
  cases tag with
  | heading level id => exact leads_opening (isPlainElement_headingName level) _
  | tableCell => exact leads_opening (isPlainElement_cellName _) _
  | blockQuote alert =>
      cases alert with
      | none => exact leads_opening (by decide) _
      | some alert =>
          -- The title of a call-out is an element by itself, inside the one that stays open.
          show Piece.Leads opened [.startTag "div" _, .startTag "p" _, .text _, .endTag "p"]
            ("div" :: opened)
          rw [Piece.Leads.startTag_cons _ (by decide), Piece.Leads.startTag_cons _ (by decide),
            Piece.Leads.text_cons, Piece.Leads.endTag_cons (by decide)]
          exact .refl _
  | list start => cases start <;> exact leads_opening (by decide) _
  | tableHead =>
      show Piece.Leads opened [.startTag "thead" [], .startTag "tr" []]
        ("tr" :: "thead" :: opened)
      rw [Piece.Leads.startTag_cons _ (by decide), Piece.Leads.startTag_cons _ (by decide)]
      exact .refl _
  | emphasis | strong | strikethrough | superscript | subscript =>
      exact leads_inline_opening (by decide)
  | link destination title =>
      simp only [startTag, openedBy, inlineMarkup, inlineNames]
      split
      · exact Piece.Leads.refl _
      · exact (Piece.Leads.link_cons _ (outside _ _ rfl)).mpr (.refl _)
  | image destination title =>
      simp only [startTag, openedBy]
      split <;> exact Piece.Leads.refl _
  | codeBlock _ | footnoteDefinition _ | htmlBlock | metadataBlock =>
      exact Piece.Leads.refl _
  | _ => exact leads_opening (by decide) _

private theorem leads_closing {name : Text} (visible : name ≠ "span") :
    Piece.Leads (name :: opened) [.endTag name] opened :=
  (Piece.Leads.endTag_cons visible).mpr (.refl _)

private theorem leads_inline_closing {name : Text} (visible : name ≠ "span")
    (same : last.inImage = writer.inImage) :
    Piece.Leads (writer.inlineNames name ++ opened) (last.inlineMarkup [.endTag name]) opened := by
  unfold inlineMarkup inlineNames
  rw [same]
  split
  · exact Piece.Leads.refl _
  · exact leads_closing visible

private theorem leads_image_end (writer : Writer) (opened : List Text) :
    Piece.Leads opened (writer.endTag .image).2 opened := by
  simp only [endTag]
  split
  · exact Piece.Leads.refl _
  · split
    · exact (Piece.Leads.void_cons _ (by decide)).mpr (.refl _)
    · exact Piece.Leads.refl _

theorem leads_endTag {tag : Tag} (frame : tag.isFrame)
    (resumes : last.Resumes (writer.startTag tag).1)
    (cell : tag = .tableCell → last.table = writer.table) :
    Piece.Leads (writer.openedBy tag ++ opened) (last.endTag tag.toEnd).2 opened := by
  cases tag with
  | heading level id => exact leads_closing (isPlainElement_headingName level).2.1
  | tableCell =>
      rw [openedBy, ← cell rfl]
      exact leads_closing (isPlainElement_cellName _).2.1
  | blockQuote alert =>
      have quotes : last.quotes = alert :: writer.quotes := resumes.quotes
      simp only [Tag.toEnd, endTag, quotes]
      cases alert <;> exact leads_closing (by decide)
  | list start => cases start <;> exact leads_closing (by decide)
  | emphasis | strong | strikethrough | superscript | subscript | link =>
      exact leads_inline_closing (by decide) resumes.inImage_eq
  | image destination title => exact leads_image_end last opened
  | footnoteDefinition _ | htmlBlock | metadataBlock => exact Piece.Leads.refl _
  | codeBlock _ | table _ | tableHead => simp [Tag.isFrame] at frame
  | _ => exact leads_closing (by decide)

/-- An image is one level deeper, whether or not it is inside of another one. -/
theorem startTag_image (writer : Writer) (destination title : Text) :
    (writer.startTag (.image destination title)).1.imageDepth = writer.imageDepth + 1 ∧
      (writer.startTag (.image destination title)).1.code = writer.code ∧
      (writer.startTag (.image destination title)).1.quotes = writer.quotes := by
  cases inside : writer.inImage with
  | true => simp [startTag, inside]
  | false =>
      have outermost : writer.imageDepth = 0 := by simpa [inImage] using inside
      simp [startTag, inside, outermost]

theorem resumes_endTag {tag : Tag} (frame : tag.isFrame)
    (resumes : last.Resumes (writer.startTag tag).1) :
    (last.endTag tag.toEnd).1.Resumes writer := by
  cases tag with
  | blockQuote alert =>
      have quotes : last.quotes = alert :: writer.quotes := resumes.quotes
      simp only [Tag.toEnd, endTag, quotes]
      cases alert <;> exact ⟨resumes.code, resumes.imageDepth, rfl⟩
  | image destination title =>
      have inner := startTag_image writer destination title
      have depth : last.imageDepth = writer.imageDepth + 1 := resumes.imageDepth.trans inner.1
      have code : last.code = writer.code := resumes.code.trans inner.2.1
      have quotes : last.quotes = writer.quotes := resumes.quotes.trans inner.2.2
      simp only [Tag.toEnd, endTag]
      split <;> exact ⟨code, by simp [depth], quotes⟩
  | codeBlock _ | table _ | tableHead => simp [Tag.isFrame] at frame
  | list start => cases start <;> exact resumes
  | _ => exact ⟨resumes.code, resumes.imageDepth, resumes.quotes⟩

/-- The start of an element that is no code block leaves the writer without one. -/
theorem code_startTag {tag : Tag} (other : ∀ kind, tag ≠ .codeBlock kind) :
    (writer.startTag tag).1.code = writer.code := by
  cases tag with
  | image destination title => exact (startTag_image writer destination title).2.1
  | codeBlock kind => exact (other kind rfl).elim
  | list start => cases start <;> rfl
  | _ => rfl

theorem run_enclose (writer : Writer) (tag : Tag) (events : List Event) :
    writer.run (Markdown.enclose tag events) =
      ((((writer.startTag tag).1.run events).1.endTag tag.toEnd).1,
        (writer.startTag tag).2 ++ (((writer.startTag tag).1.run events).2 ++
          (((writer.startTag tag).1.run events).1.endTag tag.toEnd).2)) := by
  rw [Markdown.enclose, List.cons_append, run_cons, run_append]
  simp [run, step]

/-! ## Code blocks -/

/-- The lines of a code block are kept until its end. -/
theorem run_texts {code : OpenCode} (inCode : writer.code = some code) (lines : List Text) :
    writer.run (lines.map .text) =
      ({ writer with code := some { code with text := code.text ++ lines.flatten } }, []) := by
  induction lines generalizing writer code with
  | nil => simp [run, ← inCode]
  | cons line lines induction =>
      have step : writer.step (.text line) =
          ({ writer with code := some { code with text := code.text ++ line } }, []) := by
        rw [step, inCode]
      rw [List.map_cons, run_cons, step, induction rfl]
      simp

/-- A code block is written whole at its end. -/
theorem run_codeBlock (writer : Writer) (kind : CodeBlockKind) (lines : List Text) :
    writer.run (Markdown.enclose (.codeBlock kind) (lines.map .text)) =
      ({ writer with code := none },
        codePieces { language := codeLanguage? kind, text := lines.flatten }) := by
  let inCode := (writer.startTag (.codeBlock kind)).1
  let code : OpenCode := { language := codeLanguage? kind, text := lines.flatten }
  have empty : inCode.code = some { language := codeLanguage? kind } := rfl
  have collected : inCode.run (lines.map .text) = ({ writer with code := some code }, []) :=
    run_texts empty lines
  rw [Markdown.enclose, List.cons_append, run_cons, run_append]
  simp only [step]
  rw [collected]
  simp [run, step, startTag, Tag.toEnd, endTag, code]

theorem leads_codePieces (code : OpenCode) (opened : List Text) :
    Piece.Leads opened (codePieces code) opened := by
  show Piece.Leads opened
    [.startTag "pre" [], .startTag "code" _, .text _, .endTag "code", .endTag "pre"] opened
  rw [Piece.Leads.startTag_cons _ (by decide), Piece.Leads.startTag_cons _ (by decide),
    Piece.Leads.text_cons, Piece.Leads.endTag_cons (by decide),
    Piece.Leads.endTag_cons (by decide)]
  exact .refl _

end Writer

/-! ## Elements with their contents -/

/-- Whatever a writer remembers, if it is in no code block it writes the events so that the open
elements become others, and comes back. -/
def Leads (before : List Text) (events : List Event) (after : List Text) : Prop :=
  ∀ writer : Writer, writer.code = none →
    Piece.Leads before (writer.run events).2 after ∧ (writer.run events).1.Resumes writer

namespace Leads

variable {before between after opened : List Text}

theorem nil (opened : List Text) : Leads opened [] opened :=
  fun writer _ => ⟨Piece.Leads.refl _, .refl writer⟩

theorem single {event : Event}
    (step : ∀ writer : Writer, writer.code = none →
      Piece.Leads before (writer.step event).2 after ∧ (writer.step event).1.Resumes writer) :
    Leads before [event] after := by
  intro writer idle
  rw [Writer.run_cons]
  simpa [Writer.run] using step writer idle

theorem append {left right : List Event} (first : Leads before left between)
    (second : Leads between right after) : Leads before (left ++ right) after := by
  intro writer idle
  obtain ⟨leftPieces, leftResumes⟩ := first writer idle
  obtain ⟨rightPieces, rightResumes⟩ := second _ (leftResumes.code.trans idle)
  rw [Writer.run_append]
  exact ⟨leftPieces.append rightPieces, leftResumes.trans rightResumes⟩

theorem html {written : Text} (pieces : Piece.Leads before [.markup written] after) :
    Leads before [.html written] after :=
  single fun writer _ => ⟨pieces, .refl writer⟩

theorem enclose {tag : Tag} (frame : tag.isFrame) {events : List Event}
    (outside : ∀ destination title, tag = .link destination title → ("a" : Text) ∉ opened)
    (content : ∀ writer : Writer,
      Leads (writer.openedBy tag ++ opened) events (writer.openedBy tag ++ opened))
    (cell : tag = .tableCell → ∀ writer : Writer, (writer.run events).1.table = writer.table) :
    Leads opened (Markdown.enclose tag events) opened := by
  intro writer idle
  -- The content leaves the writer as the start has left it, which is all that the end looks at.
  let inner := (writer.startTag tag).1
  have other : ∀ kind, tag ≠ .codeBlock kind := by
    rintro kind rfl
    simp [Tag.isFrame] at frame
  obtain ⟨pieces, resumes⟩ := content writer inner ((Writer.code_startTag other).trans idle)
  have sameCell : tag = .tableCell → (inner.run events).1.table = writer.table := by
    rintro rfl
    exact cell rfl inner
  rw [Writer.run_enclose]
  exact ⟨(Writer.leads_startTag outside).append
      (pieces.append (Writer.leads_endTag frame resumes sameCell)),
    Writer.resumes_endTag frame resumes⟩

/-- The end of a table closes what its head has left open. -/
theorem table (alignments : List Alignment) {head rows : List Event}
    (inHead : Leads ("tr" :: "thead" :: "table" :: opened) head
      ("tr" :: "thead" :: "table" :: opened))
    (inBody : Leads ("tbody" :: "table" :: opened) rows ("tbody" :: "table" :: opened)) :
    Leads opened (Markdown.enclose (.table alignments)
      (Markdown.enclose .tableHead head ++ rows)) opened := by
  have starts : Leads opened [.start (.table alignments)] ("table" :: opened) :=
    single fun writer _ => ⟨writer.leads_startTag (by simp), rfl, rfl, rfl⟩
  have headStarts :
      Leads ("table" :: opened) [.start .tableHead] ("tr" :: "thead" :: "table" :: opened) :=
    single fun writer _ => ⟨writer.leads_startTag (by simp), rfl, rfl, rfl⟩
  have headEnds : Leads ("tr" :: "thead" :: "table" :: opened) [.finish .tableHead]
      ("tbody" :: "table" :: opened) := by
    refine single fun writer _ => ⟨?_, rfl, rfl, rfl⟩
    show Piece.Leads _ [.endTag "tr", .endTag "thead", .startTag "tbody" []] _
    rw [Piece.Leads.endTag_cons (by decide), Piece.Leads.endTag_cons (by decide),
      Piece.Leads.startTag_cons _ (by decide)]
    exact .refl _
  have ends : Leads ("tbody" :: "table" :: opened) [.finish .table] opened := by
    refine single fun writer _ => ⟨?_, .refl writer⟩
    show Piece.Leads _ [.endTag "tbody", .endTag "table"] _
    rw [Piece.Leads.endTag_cons (by decide), Piece.Leads.endTag_cons (by decide)]
    exact .refl _
  have inOrder : Markdown.enclose (.table alignments) (Markdown.enclose .tableHead head ++ rows) =
      [.start (.table alignments)] ++ ([.start .tableHead] ++
        (head ++ ([.finish .tableHead] ++ (rows ++ [.finish .table])))) := by
    simp [Markdown.enclose, Tag.toEnd]
  rw [inOrder]
  exact starts.append (headStarts.append (inHead.append (headEnds.append (inBody.append ends))))

theorem codeBlock (kind : CodeBlockKind) (lines : List Text) :
    Leads opened (Markdown.enclose (.codeBlock kind) (lines.map .text)) opened := by
  intro writer idle
  rw [writer.run_codeBlock]
  exact ⟨Writer.leads_codePieces _ opened, idle.symm, rfl, rfl⟩

end Leads

end Html

end DocSite
