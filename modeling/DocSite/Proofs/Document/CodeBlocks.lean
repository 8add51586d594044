import DocSite.Proofs.Document.Pass
import DocSite.Proofs.Document.Rewriting

/-!
# Code blocks as markup

Highlighting goes through the code blocks from the last one to the first, and a block in a known
language shrinks to one event. What it comes to is a rewriting: of the fenced blocks, those in a
known language become markup and the others forget what stands behind their fence, and nothing else
is touched. What is left has no block that would be changed once more.
-/

namespace DocSite.Document

open Html (Piece)

/-- The markup of highlighted code in a language, written out. -/
def codeMarkup (language highlighted : Text) : Text :=
  "<pre class=\"language-".toList ++ Html.escape language ++ "\">".toList ++
    "<code class=\"language-".toList ++ Html.escape language ++ " code-highlight\">".toList ++
    highlighted ++ "</code></pre>".toList

/-- The markup of a fenced block: its code is highlighted if the first word behind the fence names
a language that the highlighter knows. -/
def fencedMarkup? (tools : Tools) (info : Text) (inner : List Event) : Option Text :=
  match Text.words info with
  | [] => none
  | language :: _ => (tools.highlight? (inner.flatMap codeOf) language).map (codeMarkup language)

/-- What a code block becomes, written out. -/
def highlightedCode (tools : Tools) (opening : Event) (inner : List Event) (closing : Event) :
    List Event :=
  match opening with
  | .start (.codeBlock (.fenced info)) =>
    match fencedMarkup? tools info inner with
    | some markup => [.html markup]
    | none => .start (.codeBlock (.fenced [])) :: inner ++ [closing]
  | _ => opening :: inner ++ [closing]

/-! ## Blocks -/

private theorem write_preTag (language : Text) :
    (Piece.startTag "pre" [.of "class" ("language-".toList ++ language)]).write =
      "<pre class=\"language-".toList ++ Html.escape language ++ "\">".toList := by
  simp [Piece.write, Html.Attribute.write, Html.Attribute.of, Html.escape, Html.escapeChar]

private theorem write_codeTag (language : Text) :
    (Piece.startTag "code"
        [.of "class" ("language-".toList ++ language ++ " code-highlight".toList)]).write =
      "<code class=\"language-".toList ++ Html.escape language ++
        " code-highlight\">".toList := by
  simp [Piece.write, Html.Attribute.write, Html.Attribute.of, Html.escape, Html.escapeChar]

theorem writeAll_highlightedBlock (language highlighted : Text) :
    Piece.writeAll (highlightedBlock language highlighted) = codeMarkup language highlighted := by
  have code : (Piece.markup highlighted).write = highlighted := rfl
  have ends : (Piece.endTag "code").write ++ ((Piece.endTag "pre").write ++ []) =
      "</code></pre>".toList := by decide
  simp only [Piece.writeAll, highlightedBlock, List.flatMap_cons, List.flatMap_nil]
  rw [write_preTag, write_codeTag, code, ends]
  unfold codeMarkup
  simp only [List.append_assoc]

theorem highlightBlock?_eq (tools : Tools) (info : Text) (inner : List Event) :
    highlightBlock? tools info inner = fencedMarkup? tools info inner := by
  unfold highlightBlock? fencedMarkup? Html.fenceLanguage?
  cases Text.words info with
  | nil => rfl
  | cons language more =>
      cases found : tools.highlight? (inner.flatMap codeOf) language with
      | none => simp [found]
      | some highlighted => simp [found, writeAll_highlightedBlock]

/-- A block without a fence stays as it is. -/
theorem highlightedCode_of_not_fenced {opening : Event}
    (other : ∀ info, opening = .start (.codeBlock (.fenced info)) → False) (tools : Tools)
    (inner : List Event) (closing : Event) :
    highlightedCode tools opening inner closing = opening :: inner ++ [closing] := by
  unfold highlightedCode
  split
  · exact (other _ rfl).elim
  · rfl

theorem highlightEvents_eq (tools : Tools) : highlightEvents tools = highlightedCode tools := by
  funext opening inner closing
  unfold highlightEvents
  split
  · rw [highlightBlock?_eq]
    rfl
  · rename_i other
    exact (highlightedCode_of_not_fenced other tools inner closing).symm

theorem isCodeStart_of_isCodeEnd {event : Event} (ends : isCodeEnd event = true) :
    isCodeStart event = false := by
  cases event with
  | start tag => simp [isCodeEnd] at ends
  | _ => rfl

/-- What becomes of a code block is not changed again. -/
theorem pass_highlightedCode (tools : Tools) {opening : Event} {inner : List Event}
    {closing : Event} (isSpan : IsSpan isCodeStart isCodeEnd opening inner closing)
    (rest : List Event) :
    Segment.pass isCodeStart isCodeEnd (highlightedCode tools)
        (highlightedCode tools opening inner closing ++ rest) =
      highlightedCode tools opening inner closing ++
        Segment.pass isCodeStart isCodeEnd (highlightedCode tools) rest := by
  have again (opening : Event) (starts : isCodeStart opening = true)
      (same : highlightedCode tools opening inner closing = opening :: inner ++ [closing]) :
      Segment.pass isCodeStart isCodeEnd (highlightedCode tools)
          (opening :: inner ++ [closing] ++ rest) =
        opening :: inner ++ [closing] ++
          Segment.pass isCodeStart isCodeEnd (highlightedCode tools) rest := by
    rw [Segment.pass_span starts isSpan.within isSpan.closes
      (isCodeStart_of_isCodeEnd isSpan.closes), same]
  unfold highlightedCode
  split
  · rename_i info
    cases made : fencedMarkup? tools info inner with
    | some markup => exact Segment.pass_single (by simp [isCodeStart])
    | none => exact again _ rfl rfl
  · rename_i other
    exact again opening isSpan.opens (highlightedCode_of_not_fenced other tools inner closing)

/-! ## One pass -/

/-- Highlighting code is rewriting its blocks. If every block is closed before another one starts,
doing it twice comes to the same. -/
theorem highlightCode_in_one_pass (tools : Tools) (events : List Event) :
    (∀ result, Rewritten isCodeStart isCodeEnd (highlightedCode tools) events result ↔
        result = highlightCode tools events) ∧
      (closesEach isCodeStart isCodeEnd false events →
        highlightCode tools (highlightCode tools events) = highlightCode tools events) := by
  have apart : ∀ event, isCodeEnd event = true → isCodeStart event = false :=
    fun _ => isCodeStart_of_isCodeEnd
  have onePass (events : List Event) : highlightCode tools events =
      Segment.pass isCodeStart isCodeEnd (highlightedCode tools) events := by
    rw [highlightCode_eq, highlightEvents_eq]
  have rewritten : Rewritten isCodeStart isCodeEnd (highlightedCode tools) events
      (highlightCode tools events) := onePass events ▸ .of_pass apart events
  refine ⟨fun result => ?_, fun closes => ?_⟩
  · rw [Rewritten.iff_eq_pass apart, onePass]
  · rw [onePass (highlightCode tools events)]
    exact rewritten.pass_result apart closes fun _ _ _ isSpan rest =>
      pass_highlightedCode tools isSpan rest

theorem highlightCode_in_one_pass_four_blocks :
    let block := fun (kind : CodeBlockKind) (line : Text) =>
      Markdown.enclose (.codeBlock kind) [.text line]
    let events := block (.fenced "yaml x") "<1>" ++ [.rule] ++ block (.fenced "no") "2" ++
      block (.fenced " ") "3" ++ block .indented "4" ++ [.finish .codeBlock]
    let markup := codeMarkup "yaml" "<span class=\"hl-source hl-yaml\">&lt;1&gt;</span>"
    closesEach isCodeStart isCodeEnd false events ∧
      highlightCode .standard events =
        [.html markup, .rule] ++ block (.fenced []) "2" ++ block (.fenced []) "3" ++
          block .indented "4" ++ [.finish .codeBlock] ∧
      highlightCode .standard (highlightCode .standard events) = highlightCode .standard events := by
  intro block events markup
  have closes : closesEach isCodeStart isCodeEnd false events := by decide
  exact ⟨closes, by decide +kernel, (highlightCode_in_one_pass .standard events).2 closes⟩

end DocSite.Document
