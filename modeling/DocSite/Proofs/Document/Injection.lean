import DocSite.Document.Stage
import DocSite.Proofs.Document.Highlighting
import DocSite.Proofs.Html.Writing

/-!
# No injection

Nothing that a document says becomes markup. Reading takes raw HTML for text, so a document has no
markup of its own. The markup that stages insert is in a fixed vocabulary, and so is what the writer
makes of the rest.
-/

namespace DocSite

/-- Whether an event is markup, to be written as it is. -/
def Event.isMarkup : Event → Bool
  | .html _ | .inlineHtml _ => true
  | _ => false

theorem Event.markupWithin_of_not_isMarkup {words : Html.Vocabulary} {event : Event}
    (free : event.isMarkup = false) : event.MarkupWithin words := by
  cases event with
  | html markup => simp [isMarkup] at free
  | inlineHtml markup => simp [isMarkup] at free
  | _ => trivial

namespace Document

open Html (Piece Vocabulary)

theorem isMarkup_parse (tools : Tools) (markdown : Text) :
    ∀ event ∈ tools.parse markdown, event.isMarkup = false := by
  intro event member
  obtain ⟨source, _, rfl⟩ := List.mem_map.mp member
  cases source with
  | start tag => cases tag <;> rfl
  | finish tag => cases tag <;> rfl
  | _ => rfl

/-! ## Inserted markup -/

/-- Highlighted code is escaped like other text, but for the apostrophe. -/
theorem codeEscapeChar_eq {c : Char} (other : c ≠ '\x27') :
    Code.escapeChar c = Html.escapeChar c := by
  rw [Code.escapeChar, Html.escapeChar]
  simp only [beq_iff_eq, other, if_false]

theorem isText_codeEscapeChar (c : Char) : Vocabulary.inserted.IsText (Code.escapeChar c) := by
  by_cases apostrophe : c = '\x27'
  · subst apostrophe
    exact Vocabulary.isText_reference (by decide) (by decide)
  · rw [codeEscapeChar_eq apostrophe]
    exact Vocabulary.isText_escapeChar (by decide) c

theorem Spanned.isMarkup {code markup : Text} (spanned : Spanned code markup) :
    Vocabulary.inserted.IsMarkup markup := by
  induction spanned with
  | nil => exact Vocabulary.isMarkup_nil
  | char escaped _ induction =>
      rcases escaped with rfl | rfl
      · exact (Vocabulary.isText_escapeChar (by decide) _).isMarkup.append induction
      · exact (isText_codeEscapeChar _).isMarkup.append induction
  | opening classes _ induction =>
      have within : (Piece.startTag "span" [.of "class" classes]).Within .inserted :=
        Piece.within_startTag_of (by decide) (by decide) classes
      exact (within.isMarkup_write (by decide)).append induction
  | closing _ induction =>
      have within : (Piece.endTag "span").Within .inserted :=
        show ("span" : Text) ∈ Vocabulary.inserted.elements by decide
      exact (within.isMarkup_write (by decide)).append induction

theorem exists_of_highlightBlock {tools : Tools} {info : Text} {inner : List Event}
    {markup : Text} (made : highlightBlock? tools info inner = some markup) :
    ∃ language highlighted, tools.highlight? (inner.flatMap codeOf) language = some highlighted ∧
      markup = Piece.writeAll (highlightedBlock language highlighted) := by
  simp only [highlightBlock?, Option.bind_eq_bind, Option.bind_eq_some_iff] at made
  obtain ⟨language, _, highlighted, found, equality⟩ := made
  exact ⟨language, highlighted, found, (Option.some.inj equality).symm⟩

theorem highlightedBlock_within (language : Text) {code highlighted : Text}
    (spanned : Spanned code highlighted) :
    ∀ piece ∈ highlightedBlock language highlighted, piece.Within .inserted := by
  have isMarkup : (Piece.markup highlighted).Within .inserted := spanned.isMarkup
  have opens : ∀ {name : Text}, name ∈ Vocabulary.inserted.elements → ∀ classes,
      (Piece.startTag name [.of "class" classes]).Within .inserted :=
    fun known classes => Piece.within_startTag_of known (by decide) classes
  have closes : ∀ {name : Text}, name ∈ Vocabulary.inserted.elements →
      (Piece.endTag name).Within .inserted := fun known => known
  simp only [highlightedBlock, List.mem_cons, List.not_mem_nil, or_false, forall_eq_or_imp,
    forall_eq]
  exact ⟨opens (by decide) _, opens (by decide) _, isMarkup, closes (by decide),
    closes (by decide)⟩

theorem isMarkup_highlightBlock {tools : Tools} (spans : tools.SpansCode) {info : Text}
    {inner : List Event} {markup : Text} (made : highlightBlock? tools info inner = some markup) :
    Vocabulary.inserted.IsMarkup markup := by
  obtain ⟨language, highlighted, found, rfl⟩ := exists_of_highlightBlock made
  exact Piece.isMarkup_writeAll (by decide) (highlightedBlock_within language (spans _ _ _ found))

/-! ## Stages -/

/-- All markup among the events is in the vocabulary. -/
def MarkupWithin (words : Vocabulary) (events : List Event) : Prop :=
  ∀ event ∈ events, event.MarkupWithin words

namespace MarkupWithin

variable {words : Vocabulary} {events : List Event}

theorem mono {more : Vocabulary} (part : words ≤ more) (within : MarkupWithin words events) :
    MarkupWithin more events := by
  intro event member
  have known := within event member
  cases event with
  | html markup => exact Vocabulary.IsMarkup.mono part known
  | inlineHtml markup => exact Vocabulary.IsMarkup.mono part known
  | _ => trivial

theorem set_start (within : MarkupWithin words events) (position : Nat) (tag : Tag) :
    MarkupWithin words (events.set position (.start tag)) := by
  intro event member
  rcases List.mem_or_eq_of_mem_set member with member | rfl
  · exact within event member
  · trivial

theorem splice (within : MarkupWithin words events) {replacement : List Event}
    (known : MarkupWithin words replacement) (start stop : Nat) :
    MarkupWithin words (splice events start stop replacement) := by
  intro event member
  simp only [Document.splice, List.mem_append] at member
  rcases member with (before | inside) | behind
  · exact within event (List.mem_of_mem_take before)
  · exact known event inside
  · exact within event (List.mem_of_mem_drop behind)

theorem slice (within : MarkupWithin words events) (start stop : Nat) :
    MarkupWithin words (slice events start stop) :=
  fun event member => within event (List.mem_of_mem_drop (List.mem_of_mem_take member))

theorem slugSpan (within : MarkupWithin words events) (span : Span) :
    MarkupWithin words (slugSpan events span) := by
  unfold Document.slugSpan setHeadingId
  split
  · exact within.set_start _ _
  · exact within

theorem linkContent {inner : List Event} (within : MarkupWithin .inserted inner) (id : Text) :
    MarkupWithin .inserted (linkContent id inner) := by
  intro event member
  simp only [Document.linkContent, List.cons_append, List.mem_cons, List.mem_append,
    List.mem_filter, List.not_mem_nil, or_false] at member
  rcases member with rfl | ⟨member, _⟩ | rfl
  · exact Piece.Within.isMarkup_write (by decide)
      (Piece.within_startTag_of (by decide) (by decide) _)
  · exact within event member
  · have closes : (Piece.endTag "a").Within .inserted :=
      show ("a" : Text) ∈ Vocabulary.inserted.elements by decide
    exact closes.isMarkup_write (by decide)

theorem linkSpan (within : MarkupWithin .inserted events) (span : Span) :
    MarkupWithin .inserted (linkSpan events span) := by
  unfold Document.linkSpan
  split
  · exact within.splice ((within.slice _ _).linkContent _) _ _
  · exact within

theorem highlightSpan {tools : Tools} (spans : tools.SpansCode)
    (within : MarkupWithin .inserted events) (span : Span) :
    MarkupWithin .inserted (highlightSpan tools events span) := by
  unfold Document.highlightSpan
  split
  · split
    · rename_i markup made
      have known : MarkupWithin .inserted [.html markup] := by
        intro event member
        obtain rfl := List.mem_singleton.mp member
        exact isMarkup_highlightBlock spans made
      exact within.splice known _ _
    · exact within.set_start _ _
  · exact within

theorem foldl {α : Type} {change : List Event → α → List Event} (parts : List α)
    (preserves : ∀ {events}, MarkupWithin words events →
      ∀ part, MarkupWithin words (change events part))
    (within : MarkupWithin words events) : MarkupWithin words (parts.foldl change events) := by
  induction parts generalizing events with
  | nil => exact within
  | cons part parts induction => exact induction (preserves within part)

theorem run {tools : Tools} (spans : tools.SpansCode) (within : MarkupWithin .inserted events)
    (stage : Stage) : MarkupWithin .inserted (stage.run tools events) := by
  cases stage with
  | slugHeadings => exact within.foldl _ slugSpan
  | linkHeadings => exact within.foldl _ linkSpan
  | highlightCode => exact within.foldl _ (highlightSpan spans)

theorem runAll {tools : Tools} (spans : tools.SpansCode) (within : MarkupWithin .inserted events)
    (stages : List Stage) : MarkupWithin .inserted (Stage.runAll tools stages events) :=
  within.foldl stages (run spans)

end MarkupWithin

/-! ## Documents -/

/-- A document has no markup of its own, and events without markup are written, from any state of
the writer, in the writer's vocabulary. If stages run before, in any order and number, what is
written has spans around highlighted code besides. -/
theorem written_documents_are_markup :
    (∀ (tools : Tools) (markdown : Text),
      ∀ event ∈ tools.parse markdown, event.isMarkup = false) ∧
    (∀ (writer : Html.Writer) (events : List Event), (∀ event ∈ events, event.isMarkup = false) →
      Vocabulary.writer.IsMarkup (writer.render events).2) ∧
    (∀ (tools : Tools), tools.SpansCode → ∀ (writer : Html.Writer) (stages : List Stage)
      (events : List Event), (∀ event ∈ events, event.isMarkup = false) →
      Vocabulary.document.IsMarkup (writer.render (Stage.runAll tools stages events)).2) := by
  refine ⟨isMarkup_parse, ?_, ?_⟩
  · intro writer events free
    apply writer.render_isMarkup (Vocabulary.le_refl _)
    exact fun event member => Event.markupWithin_of_not_isMarkup (free event member)
  · intro tools spans writer stages events free
    have within : MarkupWithin .inserted events :=
      fun event member => Event.markupWithin_of_not_isMarkup (free event member)
    apply writer.render_isMarkup Vocabulary.writer_le_document
    exact (within.runAll spans stages).mono Vocabulary.inserted_le_document

/-- A heading that says `<b>"&` stays a heading, also if stages run out of order and twice. -/
theorem written_documents_are_markup_heading :
    Tools.standard.SpansCode ∧
      (∀ event ∈ [Event.start (.heading .h2 none), .text "<b>\"&", .finish (.heading .h2)],
        event.isMarkup = false) ∧
      Vocabulary.document.IsMarkup
        (({} : Html.Writer).render
          (Stage.runAll .standard [.linkHeadings, .slugHeadings, .linkHeadings, .linkHeadings]
            [.start (.heading .h2 none), .text "<b>\"&", .finish (.heading .h2)])).2 :=
  ⟨Tools.standard_spansCode, by decide,
    written_documents_are_markup.2.2 .standard Tools.standard_spansCode {} _ _ (by decide)⟩

end Document

end DocSite
