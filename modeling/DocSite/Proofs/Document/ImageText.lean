import DocSite.Proofs.Document.Nesting
import DocSite.Proofs.Html.Writing

/-!
# Images as they are written

What stands in an image becomes the alternative text of one tag, which is written where the image
ends. Only a hard break is written where it stands, inside an image as well as outside. So an image
is one tag, and no text of it is lost, just if there is no hard break in it.
-/

namespace DocSite

open Html (Piece Writer)
open Markdown (enclose)

/-! ## What stands in an image -/

/-- Whether an event belongs to a phrase: a text, a break, or the start or the end of an element in
running text. -/
def Event.isPhrase : Event → Bool
  | .inlineHtml _ | .inlineMath _ | .displayMath _ | .footnoteReference _ | .taskMarker _ => false
  | event => event.isInline

/-- What an event in an image adds to its alternative text. -/
def Event.altText : Event → Text
  | .text content | .code content => content
  | .softBreak => " "
  | _ => []

namespace Document

/-- The alternative text of an image that holds these events. -/
def imageText (events : List Event) : Text :=
  events.flatMap Event.altText

/-- The tags that the hard breaks among some events are written as. -/
def lineBreaks (events : List Event) : List Piece :=
  List.replicate (events.count .hardBreak) (.startTag "br" [])

/-- A text holds the texts of some events in order, and a blank character for each break. -/
inductive ReadsAs : List Event → Text → Prop
  | nil : ReadsAs [] []
  | text {content text : Text} {rest : List Event} :
      ReadsAs rest text → ReadsAs (.text content :: rest) (content ++ text)
  | code {content text : Text} {rest : List Event} :
      ReadsAs rest text → ReadsAs (.code content :: rest) (content ++ text)
  | softBreak {blank : Char} {text : Text} {rest : List Event} :
      Text.isBlank blank → ReadsAs rest text → ReadsAs (.softBreak :: rest) (blank :: text)
  | hardBreak {blank : Char} {text : Text} {rest : List Event} :
      Text.isBlank blank → ReadsAs rest text → ReadsAs (.hardBreak :: rest) (blank :: text)
  | start {tag : Tag} {text : Text} {rest : List Event} :
      ReadsAs rest text → ReadsAs (.start tag :: rest) text
  | finish {tag : TagEnd} {text : Text} {rest : List Event} :
      ReadsAs rest text → ReadsAs (.finish tag :: rest) text

variable {left right events inner : List Event}

theorem imageText_append (left right : List Event) :
    imageText (left ++ right) = imageText left ++ imageText right :=
  List.flatMap_append

theorem lineBreaks_append (left right : List Event) :
    lineBreaks (left ++ right) = lineBreaks left ++ lineBreaks right := by
  rw [lineBreaks, List.count_append, ← List.replicate_append_replicate]
  rfl

theorem imageText_enclose (tag : Tag) (inner : List Event) :
    imageText (enclose tag inner) = imageText inner := by
  simp [imageText, enclose, Event.altText]

theorem lineBreaks_enclose (tag : Tag) (inner : List Event) :
    lineBreaks (enclose tag inner) = lineBreaks inner := by
  simp [lineBreaks, enclose]

theorem lineBreaks_of_not_mem (absent : Event.hardBreak ∉ events) : lineBreaks events = [] := by
  rw [lineBreaks, List.count_eq_zero_of_not_mem absent, List.replicate_zero]

/-- Without hard breaks, the alternative text is what the events read as. -/
theorem readsAs_imageText (phrases : ∀ event ∈ events, event.isPhrase)
    (absent : Event.hardBreak ∉ events) : ReadsAs events (imageText events) := by
  induction events with
  | nil => exact .nil
  | cons event rest induction =>
      simp only [List.mem_cons, forall_eq_or_imp, not_or] at phrases absent
      have behind := induction phrases.2 absent.2
      cases event with
      | start tag => exact .start behind
      | finish tag => exact .finish behind
      | text content => exact .text behind
      | code content => exact .code behind
      | softBreak => exact .softBreak (by decide) behind
      | hardBreak => exact (absent.1 rfl).elim
      | _ => simp [Event.isPhrase, Event.isInline] at phrases

end Document

/-! ## Inside an image -/

namespace Html.Writer

open Document (WellNested imageText imageText_append imageText_enclose lineBreaks lineBreaks_append
  lineBreaks_enclose)

variable {writer : Writer} {inner : List Event}

@[simp] theorem addAlt_nil (writer : Writer) : writer.addAlt [] = writer := by
  simp [addAlt]

theorem addAlt_append (writer : Writer) (left right : Text) :
    writer.addAlt (left ++ right) = (writer.addAlt left).addAlt right := by
  simp [addAlt]

@[simp] theorem inImage_addAlt (writer : Writer) (text : Text) :
    (writer.addAlt text).inImage = writer.inImage :=
  rfl

/-- In an image, an event that is no start or end adds its text to the alternative text. -/
theorem step_leaf_inside (idle : writer.code = none) (inside : writer.inImage) {event : Event}
    (isLeaf : event.isLeaf) (phrase : event.isPhrase) :
    writer.step event = (writer.addAlt event.altText, lineBreaks [event]) := by
  cases event with
  | start tag => simp [Event.isLeaf] at isLeaf
  | finish tag => simp [Event.isLeaf] at isLeaf
  | text content => simp [step, idle, inside, Event.altText, lineBreaks]
  | code content => simp [step, inside, Event.altText, lineBreaks]
  | softBreak => simp [step, inside, Event.altText, lineBreaks]
  | hardBreak => simp [step, Event.altText, lineBreaks]
  | _ => simp [Event.isPhrase, Event.isInline] at phrase

/-- In an image, an element adds just what its content adds. The content is met by a writer one
image deeper if the element is an image. -/
theorem run_enclose_inside {tag : Tag} (phrase : (Event.start tag).isPhrase)
    (inside : writer.inImage) {text : Text} {pieces : List Piece}
    (content : ∀ other : Writer, other.code = writer.code → other.inImage →
      other.run inner = (other.addAlt text, pieces)) :
    writer.run (enclose tag inner) = (writer.addAlt text, pieces) := by
  have asIs := content writer rfl inside
  cases tag with
  | emphasis | strong | strikethrough | superscript | subscript | link _ _ =>
      simp [enclose, run_cons, run_append, run, step, startTag, endTag, Tag.toEnd, inlineMarkup,
        inside, asIs]
  | image destination title =>
      let deeper : Writer := { writer with imageDepth := writer.imageDepth + 1 }
      have opened : writer.step (.start (.image destination title)) = (deeper, []) := by
        simp [step, startTag, inside, deeper]
      have closed : (deeper.addAlt text).step (.finish .image) = (writer.addAlt text, []) := by
        have open' : writer.imageDepth ≠ 0 := by simpa [inImage] using inside
        simp [step, endTag, deeper, addAlt, inImage, open']
      have within := content deeper rfl (by simp [inImage, deeper])
      simp [enclose, run_cons, run_append, run, Tag.toEnd, opened, closed, within]
  | _ => simp [Event.isPhrase, Event.isInline] at phrase

/-- In an image, well nested phrases become alternative text, and leave only their hard breaks. -/
theorem run_inside (nested : WellNested inner) (phrases : ∀ event ∈ inner, event.isPhrase)
    (idle : writer.code = none) (inside : writer.inImage) :
    writer.run inner = (writer.addAlt (imageText inner), lineBreaks inner) := by
  induction nested generalizing writer with
  | nil => simp [run, imageText, lineBreaks]
  | leaf isLeaf =>
      have step := step_leaf_inside idle inside isLeaf (phrases _ List.mem_cons_self)
      simp [run, step, imageText]
  | @element tag inner _ _ induction =>
      obtain ⟨opens, phrases, -⟩ := (Markdown.forall_mem_enclose tag inner).mp phrases
      rw [imageText_enclose, lineBreaks_enclose]
      exact run_enclose_inside opens inside fun other same within =>
        induction phrases (same.trans idle) within
  | @append left right _ _ leftInduction rightInduction =>
      simp only [List.mem_append, or_imp, forall_and] at phrases
      have first := leftInduction phrases.1 idle inside
      have second : (writer.addAlt (imageText left)).run right = _ :=
        rightInduction phrases.2 idle inside
      simp only [run_append, first, second, imageText_append, lineBreaks_append, addAlt_append]

/-- An image writes its hard breaks and then one tag, and leaves the writer as it was. -/
theorem run_image (idle : writer.code = none) (outside : writer.inImage = false)
    (destination title : Text) (nested : WellNested inner)
    (phrases : ∀ event ∈ inner, event.isPhrase) :
    writer.run (enclose (.image destination title) inner) =
      ({ writer with altText := [], pendingImage := none },
        lineBreaks inner ++ [imagePiece destination (imageText inner) title]) := by
  let opened : Writer :=
    { writer with
      imageDepth := 1
      altText := []
      pendingImage := some (destination, title) }
  have depth : writer.imageDepth = 0 := by simpa [inImage] using outside
  have opens : writer.step (.start (.image destination title)) = (opened, []) := by
    simp [step, startTag, outside, opened]
  have within : opened.run inner = (opened.addAlt (imageText inner), lineBreaks inner) :=
    run_inside nested phrases idle rfl
  have closes : (opened.addAlt (imageText inner)).step (.finish .image) =
      ({ writer with altText := [], pendingImage := none },
        [imagePiece destination (imageText inner) title]) := by
    simp [step, endTag, opened, addAlt, inImage, depth]
  rw [enclose, List.cons_append, run_cons, opens, run_append, within]
  simp [run, Tag.toEnd, closes]

end Html.Writer

/-! ## Images as tags -/

namespace Document

theorem write_imagePiece_ne (front : Text) (source alt title : Text) :
    (Piece.startTag "br" []).write ++ front ≠ (Html.imagePiece source alt title).write := by
  intro same
  have second := congrArg (·[1]?) same
  simp [Html.imagePiece, Piece.write] at second

/-- An image outside of code blocks and other images is written as its hard breaks and one tag. It
is nothing but a tag, whose alternative text is what the image reads as, just if there are none. -/
theorem image_is_one_tag_iff {writer : Writer} (idle : writer.code = none)
    (outside : writer.inImage = false) (destination title : Text) {inner : List Event}
    (nested : WellNested inner) (phrases : ∀ event ∈ inner, event.isPhrase) :
    let image := fun alt : Text => Piece.startTag "img"
      ([.of "src" (Html.safeAddress destination), .of "alt" alt] ++ Html.titleAttribute title)
    let written := (writer.render (enclose (.image destination title) inner)).2
    written = Piece.writeAll (List.replicate (inner.count .hardBreak) (.startTag "br" [])) ++
        (image (imageText inner)).write ∧
      ((∃ alt, ReadsAs inner alt ∧ written = (image alt).write) ↔ Event.hardBreak ∉ inner) := by
  intro image written
  have whole : written = Piece.writeAll (lineBreaks inner) ++ (image (imageText inner)).write := by
    have run := Writer.run_image idle outside destination title nested phrases
    simp [written, Writer.render, run, Piece.writeAll, Html.imagePiece, image]
  refine ⟨whole, ?_, fun absent => ⟨imageText inner, ?_, ?_⟩⟩
  · rintro ⟨alt, -, alone⟩ present
    obtain ⟨count, positive⟩ : ∃ count, inner.count .hardBreak = count + 1 :=
      Nat.exists_eq_succ_of_ne_zero (Nat.ne_of_gt (List.count_pos_iff.mpr present))
    rw [whole, lineBreaks, positive, List.replicate_succ, Piece.writeAll, List.flatMap_cons,
      List.append_assoc] at alone
    exact write_imagePiece_ne _ _ _ _ alone
  · exact readsAs_imageText phrases absent
  · rw [whole, lineBreaks_of_not_mem absent]
    rfl

theorem image_is_one_tag_iff_nested :
    let written := fun inner : List Event =>
      (({} : Writer).render (enclose (.image "x.png" "X") inner)).2
    let icon := enclose (.image "y.png" "Y") (enclose .emphasis [.code "b"])
    written ([.text "a", .softBreak] ++ icon) =
        "<img src=\"x.png\" alt=\"a b\" title=\"X\">" ∧
      written ([.hardBreak] ++ icon) = "<br><img src=\"x.png\" alt=\"b\" title=\"X\">" ∧
      ¬∃ alt, ReadsAs ([.hardBreak] ++ icon) alt ∧ written ([.hardBreak] ++ icon) =
        (Piece.startTag "img" [.of "src" "x.png", .of "alt" alt, .of "title" "X"]).write := by
  intro written icon
  have iconNested : WellNested icon :=
    .element trivial (.element trivial (.leaf rfl))
  have textNested : WellNested ([.text "a"] ++ [.softBreak]) := .append (.leaf rfl) (.leaf rfl)
  have breakNested : WellNested [.hardBreak] := .leaf rfl
  have idle : ({} : Writer).code = none := rfl
  have withText := image_is_one_tag_iff idle rfl "x.png" "X" (textNested.append iconNested)
    (by decide)
  have withBreak := image_is_one_tag_iff idle rfl "x.png" "X" (breakNested.append iconNested)
    (by decide)
  exact ⟨withText.1, withBreak.1, fun isOneTag => withBreak.2.mp isOneTag (by decide)⟩

end Document

end DocSite
