import DocSite.Command.Run
import DocSite.Proofs.Document.Slugs
import DocSite.Proofs.Except
import DocSite.Proofs.Site.Loading
import DocSite.Proofs.Text.Pieces
import Mathlib.Algebra.GroupWithZero.Nat

/-!
# The lines of an outline

An outline is printed heading by heading, and a line break is printed behind each. A heading whose
text holds line breaks takes more lines than one: only then is the number of lines another than that
of the headings. Slugs hold no blanks, so the text is the only place for a line break.
-/

namespace DocSite

/-! ## Lines of texts -/

namespace Text

variable {separator : Char}

theorem length_splitAt (text : Text) :
    (splitAt (· == separator) text).length = text.count separator + 1 := by
  induction text with
  | nil => rfl
  | cons c text induction =>
      obtain ⟨piece, pieces, pieces_eq⟩ : ∃ piece pieces,
          splitAt (· == separator) text = piece :: pieces := by
        rw [splitAt_eq_splitOnP]
        exact List.exists_cons_of_ne_nil (List.splitOnP_ne_nil _ _)
      rw [pieces_eq] at induction
      rw [splitAt, pieces_eq, List.count_cons, ← Nat.add_right_comm, ← induction]
      cases found : c == separator <;> simp

/-- The lines of a text, each of which ends with a line break. What follows the last line break is
no line. -/
def lines (text : Text) : List Text :=
  (splitAt (· == '\n') text).dropLast

theorem lines_onLine_append (text rest : Text) :
    lines (onLine text ++ rest) = splitAt (· == '\n') text ++ lines rest := by
  have behind : splitAt (· == '\n') rest ≠ [] := by
    rw [splitAt_eq_splitOnP]
    exact List.splitOnP_ne_nil _ _
  have whole : onLine text ++ rest = text ++ '\n' :: rest := by simp [onLine]
  rw [whole, lines, lines, splitAt_eq_splitOn, List.splitOn_append_cons_self,
    ← splitAt_eq_splitOn, ← splitAt_eq_splitOn, List.dropLast_append_of_ne_nil behind]

/-- Texts on lines of their own make the lines that each of them has. -/
theorem lines_flatMap_onLine (texts : List Text) :
    lines (texts.flatMap onLine) = texts.flatMap (splitAt (· == '\n')) := by
  induction texts with
  | nil => rfl
  | cons text texts induction =>
      rw [List.flatMap_cons, List.flatMap_cons, lines_onLine_append, induction]

theorem lines_flatMap_onLine_eq_iff {texts : List Text} :
    lines (texts.flatMap onLine) = texts ↔ ∀ text ∈ texts, '\n' ∉ text := by
  rw [lines_flatMap_onLine]
  constructor
  · intro same text member
    rw [← same] at member
    obtain ⟨other, -, piece⟩ := List.mem_flatMap.mp member
    exact not_mem_of_mem_splitAt piece
  · intro absent
    induction texts with
    | nil => rfl
    | cons text texts induction =>
        rw [List.forall_mem_cons] at absent
        rw [List.flatMap_cons, splitAt_eq_singleton_iff.mpr absent.1, induction absent.2]
        rfl

theorem length_lines_flatMap_onLine (texts : List Text) :
    (lines (texts.flatMap onLine)).length = texts.length + (texts.map (·.count '\n')).sum := by
  rw [lines_flatMap_onLine]
  induction texts with
  | nil => rfl
  | cons text texts induction =>
      rw [List.flatMap_cons, List.length_append, induction, length_splitAt, List.map_cons,
        List.sum_cons, List.length_cons]
      omega

theorem length_lines_flatMap_onLine_eq_iff {texts : List Text} :
    (lines (texts.flatMap onLine)).length = texts.length ↔ ∀ text ∈ texts, '\n' ∉ text := by
  rw [length_lines_flatMap_onLine, Nat.add_eq_left, List.sum_eq_zero_iff_forall_eq_nat,
    List.forall_mem_map]
  simp only [List.count_eq_zero]

end Text

/-! ## Slugs -/

theorem newline_not_mem_slugify (text : Text) : '\n' ∉ slugify text := fun member =>
  nomatch isBlank_of_mem_hyphenate member

/-! ## Headings -/

/-- An event is a line break, or a text or code that holds one. -/
inductive Event.BreaksLine : Event → Prop
  | softBreak : BreaksLine .softBreak
  | hardBreak : BreaksLine .hardBreak
  | text {content : Text} (inside : '\n' ∈ content) : BreaksLine (.text content)
  | code {content : Text} (inside : '\n' ∈ content) : BreaksLine (.code content)

namespace Document

/-- What is printed of a heading on its line: two spaces for each level below the second, its text,
and its slug as a mark. -/
def Heading.record (heading : Heading) : Text :=
  indentation (heading.level - 2) ++ heading.text ++ " (#".toList ++ heading.id ++ [')']

/-- The headings of a document that its outline lists hold no line breaks. -/
def HeadingsUnbroken (tools : Tools) (markdown : Text) : Prop :=
  let events := tools.parse markdown
  ∀ span ∈ headingSpans events, ∀ heading, headingAt? events span = some heading →
    ∀ event ∈ span.inner events, ¬event.BreaksLine

theorem newline_mem_headingTextOf_iff {event : Event} :
    '\n' ∈ headingTextOf event ↔ event.BreaksLine := by
  constructor
  · intro member
    cases event with
    | text content => exact .text member
    | code content => exact .code member
    | softBreak => exact .softBreak
    | hardBreak => exact .hardBreak
    | _ => nomatch member
  · intro breaks
    cases breaks with
    | softBreak => exact List.mem_singleton_self _
    | hardBreak => exact List.mem_singleton_self _
    | text inside => exact inside
    | code inside => exact inside

theorem newline_mem_headingText_iff {inner : List Event} :
    '\n' ∈ headingText inner ↔ ∃ event ∈ inner, event.BreaksLine := by
  simp only [headingText, List.mem_flatMap, newline_mem_headingTextOf_iff]

theorem eq_of_headingAt? {events : List Event} {span : Span} {heading : Heading}
    (found : headingAt? events span = some heading) :
    heading.text = headingText (span.inner events) ∧ heading.id = slugify heading.text := by
  unfold headingAt? at found
  split at found
  · split at found
    · obtain rfl := Option.some.inj found
      exact ⟨rfl, rfl⟩
    · nomatch found
  · nomatch found

variable {tools : Tools} {markdown : Text}

theorem mem_outline_iff {heading : Heading} :
    heading ∈ tools.outline markdown ↔
      ∃ span ∈ headingSpans (tools.parse markdown),
        headingAt? (tools.parse markdown) span = some heading :=
  List.mem_filterMap

/-- The line breaks in the record of a heading are those in its text. -/
theorem count_newline_record {heading : Heading} (slug : heading.id = slugify heading.text) :
    heading.record.count '\n' = heading.text.count '\n' := by
  have spaces : (indentation (heading.level - 2)).count '\n' = 0 :=
    List.count_eq_zero_of_not_mem fun member => nomatch List.eq_of_mem_replicate member
  have mark : heading.id.count '\n' = 0 :=
    List.count_eq_zero_of_not_mem (slug ▸ newline_not_mem_slugify heading.text)
  simp [Heading.record, List.count_append, spaces, mark]

theorem newline_mem_record_iff {heading : Heading} (slug : heading.id = slugify heading.text) :
    '\n' ∈ heading.record ↔ '\n' ∈ heading.text := by
  rw [← List.count_pos_iff, count_newline_record slug, List.count_pos_iff]

/-- No record of an outline holds a line break just if no listed heading does. -/
theorem headingsUnbroken_iff :
    HeadingsUnbroken tools markdown ↔
      ∀ record ∈ (tools.outline markdown).map Heading.record, '\n' ∉ record := by
  rw [List.forall_mem_map]
  constructor
  · intro unbroken heading member inside
    obtain ⟨span, spanMember, found⟩ := mem_outline_iff.mp member
    obtain ⟨text, slug⟩ := eq_of_headingAt? found
    rw [newline_mem_record_iff slug, text, newline_mem_headingText_iff] at inside
    obtain ⟨event, within, breaks⟩ := inside
    exact unbroken span spanMember heading found event within breaks
  · intro absent span spanMember heading found event within breaks
    obtain ⟨text, slug⟩ := eq_of_headingAt? found
    apply absent heading (mem_outline_iff.mpr ⟨span, spanMember, found⟩)
    rw [newline_mem_record_iff slug, text, newline_mem_headingText_iff]
    exact ⟨event, within, breaks⟩

/-! ## Printed outlines -/

theorem listing_eq_flatMap_onLine (headings : List Heading) :
    listing headings = (headings.map Heading.record).flatMap onLine := by
  rw [listing, List.flatMap_map]
  congr
  funext heading
  simp [Heading.line, Heading.record, onLine]

/-- Only the last line break is trimmed from an outline, and it is put back. -/
theorem onLine_trimEnd_listing {headings : List Heading} (any : headings ≠ []) :
    onLine (Text.trimEnd (listing headings)) = listing headings := by
  obtain ⟨before, last, rfl⟩ := (List.eq_nil_or_concat' headings).resolve_left any
  have whole : listing (before ++ [last]) = listing before ++ (indentation (last.level - 2) ++
      last.text ++ " (#".toList ++ last.id) ++ [')', '\n'] := by
    simp only [listing, List.flatMap_append, List.flatMap_singleton, Heading.line,
      List.append_assoc]
  rw [whole, Text.trimEnd, Text.dropEndWhile, List.reverse_append]
  simp [onLine, Text.isBlank]

end Document

namespace Command

variable {surroundings : Surroundings} {page : PageOperands} {options : SourceOptions}
  {tools : Document.Tools} {address : Address} {viewer : Viewer} {source : Source}
  {markdown : Text}

/-- The viewer of a command makes documents with the tools of the command. -/
theorem tools_of_shown
    (prepared : shown surroundings page options tools = .ok (address, viewer)) :
    viewer.tools = tools := by
  obtain ⟨_, -, prepared⟩ := Except.bind_eq_ok_iff.mp prepared
  obtain ⟨_, isViewer, same⟩ := Except.bind_eq_ok_iff.mp prepared
  cases same
  obtain ⟨config, -, made⟩ := Except.bind_eq_ok_iff.mp isViewer
  obtain ⟨-, _, -, rfl⟩ := Viewer.of_eq_ok_iff.mp (Except.mapError_eq_ok_iff.mp made)
  rfl

/-- The command that lists the headings of a page writes the outline of the page's document. -/
theorem output_runHeadings
    (prepared : shown surroundings page options tools = .ok (address, viewer))
    (fetched : source (viewer.location.url address) = .ok markdown) :
    ((runHeadings surroundings page options false tools).result source).output =
      onLine (Text.trimEnd (Document.listing (tools.outline markdown))) := by
  have rendered : ((viewer.load address).result source).rendition.headings =
      tools.outline markdown := by
    rw [Viewer.rendition_load, Viewer.renditionFrom, fetched, ← tools_of_shown prepared]
    rfl
  rw [runHeadings, prepared, proceed]
  simp only [Fetching.result_bind, Fetching.result_pure, rendered]
  rfl

/-- What is printed of an outline with headings is the record of each heading on a line, in order.
It has as many more lines than headings as the texts of these headings hold line breaks. So its
lines are the records, and there are as many lines as headings, just if no listed heading of the
document holds a line break. -/
theorem printed_outline_has_line_each_iff (tools : Document.Tools) (markdown : Text)
    (any : tools.outline markdown ≠ []) :
    let headings := tools.outline markdown
    let records := headings.map Document.Heading.record
    let printed := records.flatMap onLine
    (∀ (surroundings : Surroundings) (page : PageOperands) (options : SourceOptions)
      (address : Address) (viewer : Viewer) (source : Source),
      shown surroundings page options tools = .ok (address, viewer) →
      source (viewer.location.url address) = .ok markdown →
      ((runHeadings surroundings page options false tools).result source).output = printed) ∧
    (Text.lines printed).length =
      headings.length + (headings.map fun heading => heading.text.count '\n').sum ∧
    (Text.lines printed = records ↔ Document.HeadingsUnbroken tools markdown) ∧
    ((Text.lines printed).length = headings.length ↔
      Document.HeadingsUnbroken tools markdown) := by
  intro headings records printed
  refine ⟨?output, ?number, ?inOrder, ?asMany⟩
  case output =>
    intro surroundings page options address viewer source prepared fetched
    rw [output_runHeadings prepared fetched, Document.onLine_trimEnd_listing any,
      Document.listing_eq_flatMap_onLine]
  case number =>
    rw [Text.length_lines_flatMap_onLine, List.length_map, List.map_map]
    congr 2
    refine List.map_congr_left fun heading member => ?_
    obtain ⟨span, -, found⟩ := Document.mem_outline_iff.mp member
    exact Document.count_newline_record (Document.eq_of_headingAt? found).2
  case inOrder =>
    rw [Text.lines_flatMap_onLine_eq_iff, Document.headingsUnbroken_iff]
  case asMany =>
    rw [Document.headingsUnbroken_iff, ← Text.length_lines_flatMap_onLine_eq_iff, List.length_map]

/-- An underlined heading over two lines, which is printed on two lines, in front of one with a
slug of its own. -/
theorem printed_outline_has_line_each_iff_underlined :
    let markdown := "a\nb\n---\n### c\n".toList
    let outline := Document.Tools.standard.outline markdown
    let records := outline.map Document.Heading.record
    let printed := records.flatMap onLine
    let surroundings : Surroundings := ⟨⟨fun _ => .missing⟩, [], fun _ => none⟩
    let answers : Source := fun _ => .ok markdown
    outline ≠ [] ∧ records = ["a\nb (#a-b)".toList, "  c (#c)".toList] ∧
      ((runHeadings surroundings ⟨none, none, none⟩ ⟨none, none, none⟩ false).result
        answers).output = printed ∧
      (Text.lines printed).length = 3 ∧
      Text.lines printed ≠ records ∧ ¬Document.HeadingsUnbroken .standard markdown := by
  intro markdown outline records printed surroundings answers
  have spelled : records = ["a\nb (#a-b)".toList, "  c (#c)".toList] := by decide +kernel
  have any : outline ≠ [] := by decide +kernel
  obtain ⟨output, -, inOrder, asMany⟩ :=
    printed_outline_has_line_each_iff .standard markdown any
  have number : (Text.lines printed).length = 3 := by
    rw [show printed = records.flatMap onLine from rfl, spelled]
    decide +kernel
  have broken : ¬Document.HeadingsUnbroken .standard markdown := by
    rw [← asMany, number]
    decide +kernel
  refine ⟨any, spelled, ?_, number, fun same => broken (inOrder.mp same), broken⟩
  exact output surroundings _ _ .root .default answers rfl rfl

end Command

end DocSite
