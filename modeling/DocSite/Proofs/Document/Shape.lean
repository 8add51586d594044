import DocSite.Proofs.Document.Section

/-!
# Links in parsed documents

Nothing keeps the parser from reading a link inside another one. Where none is, the shape of a
parsed document says so for each link, and the shape is kept when links are taken out of running
text.
-/

namespace DocSite

open Markdown (enclose)

/-- Whether the event starts a link, or a heading, which is made a link to itself. -/
def Event.opensLink : Event → Bool
  | .start (.link _ _) | .start (.heading _ _) => true
  | _ => false

/-- A parsed element can hold these events, among which no link opens if it is one itself. -/
def Tag.MayHoldApart (tag : Tag) (inner : List Event) : Prop :=
  tag.MayHold inner ∧
    ∀ destination title, tag = .link destination title → ∀ event ∈ inner, event.opensLink = false

namespace Document

variable {events inner : List Event} {inLink : Bool}

/-- Whether no link starts inside another one. `inLink` says that the events are inside one. -/
def linksApart : (inLink : Bool) → List Event → Bool
  | _, [] => true
  | inLink, .start (.link _ _) :: rest => !inLink && linksApart true rest
  | _, .finish .link :: rest => linksApart false rest
  | inLink, _ :: rest => linksApart inLink rest

theorem linksApart_cons {event : Event} (other : isLink event = false) (rest : List Event) :
    linksApart inLink (event :: rest) = linksApart inLink rest := by
  cases event with
  | start tag =>
      cases tag with
      | link destination title => simp [isLink] at other
      | _ => rfl
  | finish tag =>
      cases tag with
      | link => simp [isLink] at other
      | _ => rfl
  | _ => rfl

theorem isLink_of_isLeaf {event : Event} (isLeaf : event.isLeaf) : isLink event = false := by
  cases event with
  | start tag => simp [Event.isLeaf] at isLeaf
  | finish tag => simp [Event.isLeaf] at isLeaf
  | _ => rfl

theorem link_or_isLink_eq_false (tag : Tag) :
    (∃ destination title, tag = .link destination title) ∨
      isLink (.start tag) = false ∧ isLink (.finish tag.toEnd) = false := by
  cases tag with
  | link destination title => exact .inl ⟨destination, title, rfl⟩
  | _ => exact .inr ⟨rfl, rfl⟩

/-- A well nested part ends outside of the links that start in it. -/
theorem WellNested.linksApart_append (nested : WellNested events) (rest : List Event) :
    linksApart inLink (events ++ rest) = (linksApart inLink events && linksApart inLink rest) := by
  induction nested generalizing inLink rest with
  | nil => rfl
  | leaf isLeaf =>
      have other := isLink_of_isLeaf isLeaf
      rw [List.singleton_append, linksApart_cons other, linksApart_cons other]
      rfl
  | append _ _ leftInduction rightInduction =>
      rw [List.append_assoc, leftInduction, rightInduction, leftInduction, Bool.and_assoc]
  | @element tag inner _ _ induction =>
      have inOrder (rest : List Event) : enclose tag inner ++ rest =
          .start tag :: (inner ++ (.finish tag.toEnd :: rest)) := by
        simp [enclose]
      have alone : enclose tag inner = .start tag :: (inner ++ [.finish tag.toEnd]) := rfl
      rcases link_or_isLink_eq_false tag with ⟨destination, title, rfl⟩ | ⟨opens, closes⟩
      · rw [inOrder, alone]
        cases inLink with
        | true => rfl
        | false => simp [linksApart, Tag.toEnd, induction]
      · rw [inOrder, alone, linksApart_cons opens, linksApart_cons opens, induction, induction,
          linksApart_cons closes, linksApart_cons closes]
        simp [linksApart]

theorem WellNested.linksApart_enclose (nested : WellNested inner) {tag : Tag}
    (apart : linksApart inLink (enclose tag inner)) :
    ∃ inside, linksApart inside inner ∧
      ∀ destination title, tag = .link destination title → inside = true := by
  rw [enclose, List.cons_append] at apart
  rcases link_or_isLink_eq_false tag with ⟨destination, title, rfl⟩ | ⟨opens, _⟩
  · simp only [linksApart, nested.linksApart_append, Bool.and_eq_true] at apart
    exact ⟨true, apart.2.1, fun _ _ _ => rfl⟩
  · rw [linksApart_cons opens, nested.linksApart_append, Bool.and_eq_true] at apart
    refine ⟨inLink, apart.1, ?_⟩
    rintro destination title rfl
    simp [isLink] at opens

/-- Inside a link, links are apart only if there are none. -/
theorem WellNested.isLink_eq_false (nested : WellNested events) (apart : linksApart true events) :
    ∀ event ∈ events, isLink event = false := by
  induction nested with
  | nil => simp
  | leaf isLeaf => simpa using isLink_of_isLeaf isLeaf
  | append leftNested _ leftInduction rightInduction =>
      rw [leftNested.linksApart_append, Bool.and_eq_true] at apart
      intro event member
      rcases List.mem_append.mp member with member | member
      · exact leftInduction apart.1 event member
      · exact rightInduction apart.2 event member
  | @element tag inner _ nested induction =>
      rcases link_or_isLink_eq_false tag with ⟨destination, title, rfl⟩ | ⟨opens, closes⟩
      · simp [enclose, linksApart] at apart
      · rw [enclose, List.cons_append, linksApart_cons opens, nested.linksApart_append,
          Bool.and_eq_true] at apart
        exact (Markdown.forall_mem_enclose tag inner).mpr ⟨opens, induction apart.1, closes⟩

namespace Shaped

theorem apart (shaped : Shaped Tag.MayHold events) (isApart : linksApart inLink events) :
    Shaped Tag.MayHoldApart events := by
  induction shaped generalizing inLink with
  | nil => exact nil
  | leaf isLeaf => exact leaf isLeaf
  | @element tag inner other mayHold isInner induction =>
      have nested := isInner.wellNested Tag.MayHold.canHold
      obtain ⟨inside, apartInside, link⟩ := nested.linksApart_enclose isApart
      refine element other ⟨mayHold, ?_⟩ (induction apartInside)
      rintro destination title rfl event member
      obtain rfl := link _ _ rfl
      have noLink := nested.isLink_eq_false apartInside event member
      have noHeading := mayHold.noHeading _ _ rfl event member
      unfold Event.opensLink
      split
      · simp [isLink] at noLink
      · simp [isHeadingStart] at noHeading
      · rfl
  | @table alignments head rows headHolds rowsHold isHead isRows headInduction rowsInduction =>
      have nestedHead := isHead.wellNested Tag.MayHold.canHold
      have nestedRows := isRows.wellNested Tag.MayHold.canHold
      have headElement : WellNested (enclose .tableHead head) := .element trivial nestedHead
      obtain ⟨inside, apartInside, _⟩ :=
        (headElement.append nestedRows).linksApart_enclose isApart
      rw [headElement.linksApart_append, Bool.and_eq_true] at apartInside
      obtain ⟨insideHead, apartHead, _⟩ := nestedHead.linksApart_enclose apartInside.1
      exact table headHolds rowsHold (headInduction apartHead) (rowsInduction apartInside.2)
  | append isLeft isRight leftInduction rightInduction =>
      have nested := isLeft.wellNested Tag.MayHold.canHold
      rw [nested.linksApart_append, Bool.and_eq_true] at isApart
      exact (leftInduction isApart.1).append (rightInduction isApart.2)

theorem sectioned (shaped : Shaped Tag.MayHoldApart events) : Sectioned events :=
  (shaped.wellNested fun held => held.1.canHold).sectioned

/-- Running text without its links is still shaped. -/
theorem filter_links (shaped : Shaped Tag.MayHoldApart events)
    (inline : ∀ event ∈ events, event.isInline) :
    Shaped Tag.MayHoldApart (events.filter fun event => !isLink event) := by
  induction shaped with
  | nil => exact nil
  | leaf isLeaf => simpa [isLink_of_isLeaf isLeaf] using leaf isLeaf
  | @element tag inner other _ _ induction =>
      obtain ⟨opens, inside, -⟩ := (Markdown.forall_mem_enclose tag inner).mp inline
      have filtered := induction inside
      rcases link_or_isLink_eq_false tag with ⟨destination, title, rfl⟩ | ⟨link, linkEnd⟩
      · simpa [enclose, isLink, Tag.toEnd] using filtered
      · -- Inline elements other than links hold anything.
        have holds : tag.MayHoldApart (inner.filter fun event => !isLink event) := by
          refine ⟨?_, by rintro destination title rfl; simp [isLink] at link⟩
          cases tag with
          | link => simp [isLink] at link
          | emphasis | strong | strikethrough | superscript | subscript | image =>
              exact .of_admits rfl trivial
          | _ => simp [Event.isInline] at opens
        simpa [enclose, link, linkEnd] using element other holds filtered
  | table =>
      have opens := inline _ List.mem_cons_self
      simp [Event.isInline] at opens
  | append _ _ leftInduction rightInduction =>
      simp only [List.mem_append, or_imp, forall_and] at inline
      rw [List.filter_append]
      exact (leftInduction inline.1).append (rightInduction inline.2)

end Shaped

/-! ## Raw HTML as text -/

theorem ConsistsOf.map_showMarkup {tag : Tag} (consists : ConsistsOf tag events)
    (same : shownTag tag = tag) : ConsistsOf tag (events.map showMarkup) := by
  obtain ⟨contents, rfl⟩ := consists
  refine ⟨contents.map (List.map showMarkup), ?_⟩
  simp [List.map_flatMap, List.flatMap_map, map_showMarkup_enclose, same]

theorem isHeadingStart_showMarkup (event : Event) :
    isHeadingStart (showMarkup event) = isHeadingStart event := by
  cases event with
  | start tag => cases tag <;> rfl
  | finish tag => cases tag <;> rfl
  | _ => rfl

theorem admits_shownTag {tag : Tag} (admits : tag.Admits inner) :
    (shownTag tag).Admits (inner.map showMarkup) := by
  have inline (inline : ∀ event ∈ inner, event.isInline) :
      ∀ event ∈ inner.map showMarkup, event.isInline := by
    intro event member
    obtain ⟨source, present, rfl⟩ := List.mem_map.mp member
    exact isInline_showMarkup (inline source present)
  cases tag with
  | heading | tableCell => exact inline admits
  | codeBlock kind =>
      have canHold : (Tag.codeBlock kind).CanHold inner := admits
      exact canHold_shownTag canHold
  | tableHead | tableRow => exact admits.map_showMarkup rfl
  | _ => trivial

theorem mayHold_shownTag {tag : Tag} (mayHold : tag.MayHold inner) :
    (shownTag tag).MayHold (inner.map showMarkup) := by
  refine ⟨admits_shownTag mayHold.admits, ?_, ?_⟩
  · cases tag with
    | tableHead => exact absurd rfl mayHold.noHead
    | _ => nofun
  · intro destination title same event member
    obtain ⟨source, present, rfl⟩ := List.mem_map.mp member
    rw [isHeadingStart_showMarkup]
    cases tag with
    | link => exact mayHold.noHeading _ _ rfl source present
    | _ => nomatch same

theorem Shaped.map_showMarkup (shaped : Shaped Tag.MayHold events) :
    Shaped Tag.MayHold (events.map showMarkup) := by
  induction shaped with
  | nil => exact nil
  | leaf isLeaf => exact leaf (isLeaf_showMarkup isLeaf)
  | @element tag inner other mayHold _ induction =>
      have shown : (shownTag tag).isTable = false := by
        cases tag <;> first | rfl | exact other
      rw [map_showMarkup_enclose]
      exact element shown (mayHold_shownTag mayHold) induction
  | table headHolds rowsHold _ _ headInduction rowsInduction =>
      rw [map_showMarkup_enclose, List.map_append, map_showMarkup_enclose]
      exact table (headHolds.map_showMarkup rfl) (rowsHold.map_showMarkup rfl) headInduction
        rowsInduction
  | append _ _ leftInduction rightInduction =>
      rw [List.map_append]
      exact leftInduction.append rightInduction

/-- Every Markdown text is parsed as a document of the shape of parsed ones. -/
theorem shaped_parse (markdown : Text) : Shaped Tag.MayHold (parse markdown) :=
  (Markdown.shaped_read markdown).map_showMarkup

end Document

end DocSite
