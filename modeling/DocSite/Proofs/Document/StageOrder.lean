import DocSite.Proofs.Document.HeadingLinks
import DocSite.Proofs.Document.Section

/-!
# The order of stages

In a well nested document a heading and a code block have nothing in common, so stages that change
headings and the stage that changes code come to the same in either order. Of the two that change
headings, slugs come first: links are made with them, and as a link says what the heading said, they
stay what they are.
-/

namespace DocSite.Document

/-- Whether a stage changes headings and nothing else. -/
def Stage.changesHeadings : Stage → Bool
  | slugHeadings | linkHeadings => true
  | highlightCode => false

/-! ## Sections -/

namespace Section

variable (tools : Tools)

theorem slug_slug (part : Section) : part.slug.slug = part.slug := by
  cases part <;> rfl

/-- A heading that has its slug and is a link to itself has the slug of its text. -/
theorem slug_link_slug (part : Section) : part.slug.link.slug = part.slug.link := by
  cases part with
  | heading level id inner free => simp only [slug, link, headingText_linkContent]
  | plain event free => rfl
  | code kind lines => rfl

theorem highlight_highlight (part : Section) :
    (part.highlight tools).highlight tools = part.highlight tools := by
  cases part with
  | code kind lines =>
      cases kind with
      | indented => rfl
      | fenced info =>
          cases made : highlightBlock? tools info (lines.map .text) with
          | some markup => simp only [highlight, made]
          | none =>
              have nameless : highlightBlock? tools [] (lines.map .text) = none := rfl
              simp only [highlight, made, nameless]
  | plain event free => rfl
  | heading level id inner free => rfl

/-- Whether a section is a heading. -/
def isHeading : Section → Bool
  | heading _ _ _ _ => true
  | _ => false

theorem highlight_of_isHeading {part : Section} (isHeading : part.isHeading = true) :
    part.highlight tools = part := by
  cases part with
  | heading level id inner free => rfl
  | _ => contradiction

theorem isHeading_highlight (part : Section) :
    (part.highlight tools).isHeading = part.isHeading := by
  cases part with
  | code kind lines =>
      cases kind with
      | indented => rfl
      | fenced info =>
          cases made : highlightBlock? tools info (lines.map .text) <;>
            simp only [highlight, made, isHeading]
  | plain event free => rfl
  | heading level id inner free => rfl

theorem isHeading_run (stage : Stage) (part : Section) :
    (part.run tools stage).isHeading = part.isHeading := by
  cases stage with
  | slugHeadings => cases part <;> rfl
  | linkHeadings =>
      cases part with
      | heading level id inner free => cases id <;> rfl
      | plain event free => rfl
      | code kind lines => rfl
  | highlightCode => exact part.isHeading_highlight tools

theorem run_of_changesHeadings {stage : Stage} (changes : stage.changesHeadings = true)
    {part : Section} (noHeading : part.isHeading = false) : part.run tools stage = part := by
  cases part with
  | heading level id inner free => simp [isHeading] at noHeading
  | _ =>
      cases stage with
      | highlightCode => simp [Stage.changesHeadings] at changes
      | _ => rfl

/-- Whatever a stage changes, highlighting comes to the same before it and behind it. -/
theorem highlight_run (stage : Stage) (part : Section) :
    (part.run tools stage).highlight tools = (part.highlight tools).run tools stage := by
  cases changes : stage.changesHeadings with
  | true =>
      cases heading : part.isHeading with
      | true =>
          rw [highlight_of_isHeading tools heading, highlight_of_isHeading]
          rw [isHeading_run, heading]
      | false =>
          rw [run_of_changesHeadings tools changes heading, run_of_changesHeadings tools changes]
          rw [isHeading_highlight, heading]
  | false =>
      cases stage with
      | highlightCode => rfl
      | _ => simp [Stage.changesHeadings] at changes

theorem highlight_runAll (stages : List Stage) (part : Section) :
    (part.highlight tools).runAll tools stages = (part.runAll tools stages).highlight tools := by
  induction stages generalizing part with
  | nil => rfl
  | cons stage stages induction =>
      show ((part.highlight tools).run tools stage).runAll tools stages = _
      rw [← highlight_run, induction]
      rfl

/-- Highlighting may be put off to the end, and once is as good as many times. -/
theorem runAll_highlight_last {stages : List Stage} (highlights : .highlightCode ∈ stages)
    (part : Section) :
    part.runAll tools stages =
      (part.runAll tools (stages.filter Stage.changesHeadings)).highlight tools := by
  induction stages generalizing part with
  | nil => simp at highlights
  | cons stage stages induction =>
      have first (others : List Stage) : part.runAll tools (stage :: others) =
          (part.run tools stage).runAll tools others := rfl
      cases stage with
      | highlightCode =>
          have putOff : part.runAll tools (.highlightCode :: stages) =
              (part.runAll tools stages).highlight tools := highlight_runAll tools stages part
          rw [putOff, List.filter_cons_of_neg (by simp [Stage.changesHeadings])]
          by_cases again : .highlightCode ∈ stages
          · rw [induction again, highlight_highlight]
          · have all : ∀ stage ∈ stages, stage.changesHeadings = true := by
              intro stage member
              cases stage with
              | highlightCode => exact (again member).elim
              | _ => rfl
            rw [List.filter_eq_self.mpr all]
      | slugHeadings | linkHeadings =>
          rw [List.filter_cons_of_pos rfl, first, first]
          exact induction (by simpa using highlights) _

end Section

/-! ## Documents -/

section Orders

variable (tools : Tools) {events : List Event}

/-- What is so of sections one by one is so of a document. -/
theorem Sectioned.runAll_eq (sectioned : Sectioned events) (left right : List Stage)
    (same : ∀ part : Section, part.runAll tools left = part.runAll tools right) :
    Stage.runAll tools left events = Stage.runAll tools right events := by
  obtain ⟨sections, rfl⟩ := sectioned
  rw [Section.runAll_sections, Section.runAll_sections, funext same]

/-- Stages that give headings their slugs, and later links to themselves, are as good as the
standard ones, wherever code is highlighted. -/
theorem Section.runAll_eq_standard {stages : List Stage} (order : stages.Perm Stage.standard)
    (slugsFirst : [.slugHeadings, .linkHeadings].Sublist stages) (part : Section) :
    part.runAll tools stages = part.runAll tools Stage.standard := by
  have highlights : .highlightCode ∈ stages := order.mem_iff.mpr (by decide)
  have headings : stages.filter Stage.changesHeadings = [.slugHeadings, .linkHeadings] := by
    have sublist := slugsFirst.filter Stage.changesHeadings
    have length := (order.filter Stage.changesHeadings).length_eq
    exact (sublist.eq_of_length length.symm).symm
  rw [runAll_highlight_last tools highlights, headings]
  rfl

/-- In a well nested document, a second run of the stage for slugs changes nothing, right after the
first one or behind the stage for links. Highlighting may come before either of the two or behind it.
So all orders of the standard stages in which slugs come before links give one document and one
page. -/
theorem stages_in_any_order (nested : WellNested events) :
    slugHeadings (slugHeadings events) = slugHeadings events ∧
      slugHeadings (linkHeadings (slugHeadings events)) = linkHeadings (slugHeadings events) ∧
      highlightCode tools (slugHeadings events) = slugHeadings (highlightCode tools events) ∧
      highlightCode tools (linkHeadings events) = linkHeadings (highlightCode tools events) ∧
      ∀ stages : List Stage, stages.Perm Stage.standard →
        [.slugHeadings, .linkHeadings].Sublist stages →
        Stage.runAll tools stages events = Stage.runAll tools Stage.standard events ∧
          Html.render (Stage.runAll tools stages events) =
            Html.render (Stage.runAll tools Stage.standard events) := by
  have sectioned := nested.sectioned
  refine ⟨?_, ?_, ?_, ?_, fun stages order slugsFirst => ?_⟩
  · exact sectioned.runAll_eq tools [.slugHeadings, .slugHeadings] [.slugHeadings]
      Section.slug_slug
  · exact sectioned.runAll_eq tools [.slugHeadings, .linkHeadings, .slugHeadings]
      [.slugHeadings, .linkHeadings] Section.slug_link_slug
  · exact sectioned.runAll_eq tools [.slugHeadings, .highlightCode]
      [.highlightCode, .slugHeadings] (Section.highlight_run tools .slugHeadings)
  · exact sectioned.runAll_eq tools [.linkHeadings, .highlightCode]
      [.highlightCode, .linkHeadings] (Section.highlight_run tools .linkHeadings)
  · have same : Stage.runAll tools stages events = Stage.runAll tools Stage.standard events :=
      sectioned.runAll_eq tools _ _ (Section.runAll_eq_standard tools order slugsFirst)
    exact ⟨same, congrArg Html.render same⟩

theorem stages_in_any_order_code_first :
    let events := Markdown.enclose (.heading .h2 none) (Markdown.enclose (.link "q" []) [.text "Q"]) ++
      Markdown.enclose (.codeBlock (.fenced "yaml")) [.text "1"]
    let stages : List Stage := [.highlightCode, .slugHeadings, .linkHeadings]
    WellNested events ∧ stages.Perm Stage.standard ∧
      [.slugHeadings, .linkHeadings].Sublist stages ∧
      Html.render (Stage.runAll .standard stages events) =
        "<h2 id=\"q\"><a href=\"#q\">Q</a></h2><pre class=\"language-yaml\">".toList ++
          "<code class=\"language-yaml code-highlight\">".toList ++
          "<span class=\"hl-source hl-yaml\">1</span></code></pre>".toList ∧
      Html.render (Stage.runAll .standard stages events) =
        Html.render (Stage.runAll .standard Stage.standard events) := by
  intro events stages
  have link : WellNested (Markdown.enclose (.link "q" []) [.text "Q"]) :=
    .element trivial (.leaf rfl)
  have inline : ∀ event ∈ Markdown.enclose (.link "q" []) [.text "Q"], event.isInline := by decide
  have heading : WellNested (Markdown.enclose (.heading .h2 none)
      (Markdown.enclose (.link "q" []) [.text "Q"])) := .element inline link
  have nested : WellNested events := heading.append (.element ⟨["1"], rfl⟩ (.leaf rfl))
  have order : stages.Perm Stage.standard := by decide
  have slugsFirst : [.slugHeadings, .linkHeadings].Sublist stages := by decide
  have same := (stages_in_any_order .standard nested).2.2.2.2 stages order slugsFirst
  exact ⟨nested, order, slugsFirst, by decide +kernel, same.2⟩

end Orders

end DocSite.Document
