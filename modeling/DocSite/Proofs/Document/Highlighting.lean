import DocSite.Document.Parse
import Mathlib.Data.List.SplitBy

/-!
# Highlighted code

All that is asked of a highlighter is that it puts spans around escaped code. The standard one does
so, whatever the code and its language are.
-/

namespace DocSite

namespace Document

/-- Markup that is some code with its special characters escaped, and with tags of spans anywhere
between them. An apostrophe may be escaped in either of two ways. -/
inductive Spanned : (code markup : Text) → Prop
  | nil : Spanned [] []
  | char {c : Char} {written code markup : Text} :
      written = Html.escapeChar c ∨ written = Code.escapeChar c →
      Spanned code markup → Spanned (c :: code) (written ++ markup)
  | opening (classes : Text) {code markup : Text} :
      Spanned code markup →
      Spanned code ((Html.Piece.startTag "span" [.of "class" classes]).write ++ markup)
  | closing {code markup : Text} :
      Spanned code markup → Spanned code ((Html.Piece.endTag "span").write ++ markup)

namespace Spanned

theorem append {leftCode left rightCode right : Text} (isLeft : Spanned leftCode left)
    (isRight : Spanned rightCode right) : Spanned (leftCode ++ rightCode) (left ++ right) := by
  induction isLeft with
  | nil => exact isRight
  | char escaped _ induction => simpa using induction.char escaped
  | opening classes _ induction => simpa using induction.opening classes
  | closing _ induction => simpa using induction.closing

theorem escape (code : Text) : Spanned code (Code.escape code) := by
  induction code with
  | nil => exact nil
  | cons c code induction => exact induction.char (.inr rfl)

end Spanned

/-- The highlighter puts spans around escaped code. -/
def Tools.SpansCode (tools : Tools) : Prop :=
  ∀ code language markup, tools.highlight? code language = some markup → Spanned code markup

end Document

/-! ## The standard highlighter -/

namespace Code

open Document Html

theorem writeAll_spanOf (classes : Text) (content : List Piece) :
    Piece.writeAll (spanOf classes content) =
      (Piece.startTag "span" [.of "class" classes]).write ++ Piece.writeAll content ++
        (Piece.endTag "span").write := by
  simp [spanOf, Piece.writeAll]

theorem spanned_spanOf {code : Text} {content : List Piece} (classes : Text)
    (spanned : Spanned code (Piece.writeAll content)) :
    Spanned code (Piece.writeAll (spanOf classes content)) := by
  have closed := (spanned.append Spanned.nil.closing).opening classes
  rw [writeAll_spanOf]
  simpa using closed

theorem spanned_pieces (token : Token) : Spanned token.text (Piece.writeAll token.pieces) := by
  have plain : Spanned token.text (Piece.writeAll [.markup (escape token.text)]) := by
    simpa [Piece.writeAll, Piece.write] using Spanned.escape token.text
  unfold Token.pieces
  split
  · exact spanned_spanOf _ plain
  · exact plain

theorem spanned_tokens (tokens : List Token) :
    Spanned (tokens.flatMap Token.text) (Piece.writeAll (tokens.flatMap Token.pieces)) := by
  induction tokens with
  | nil => exact .nil
  | cons token tokens induction =>
      simpa [Piece.writeAll] using (spanned_pieces token).append induction

theorem map_text_markParts (mode : Sql.Mode) (parts : List Text) :
    (Sql.markParts mode parts).map Token.text = parts := by
  induction parts generalizing mode with
  | nil => rfl
  | cons part parts induction => simp [Sql.markParts, induction]

/-- No code is lost when it is cut into tokens. -/
theorem flatMap_text_tokens (code language : Text) :
    (tokens code language).flatMap Token.text = code := by
  unfold tokens
  split
  · rw [Sql.tokens, List.flatMap, map_text_markParts, List.flatten_splitBy]
  · simp

theorem spanned_highlight {code language : Text} {pieces : List Piece}
    (highlighted : highlight? code language = some pieces) :
    Spanned code (Piece.writeAll pieces) := by
  unfold highlight? at highlighted
  split at highlighted
  · rename_i known
    split at highlighted
    · obtain rfl := Option.some.inj highlighted
      have spanned := spanned_tokens (tokens code language)
      rw [flatMap_text_tokens] at spanned
      exact spanned_spanOf _ spanned
    · rename_i unscoped
      obtain rfl := Option.some.inj highlighted
      -- A known language has a scope, so only empty code is left without a span.
      have empty : code = [] := by
        cases code with
        | nil => rfl
        | cons c code =>
            obtain ⟨found, equality⟩ := Option.isSome_iff_exists.mp known
            simp [scope?, equality] at unscoped
      subst empty
      exact .nil
  · simp at highlighted

end Code

theorem Document.Tools.standard_spansCode : Tools.standard.SpansCode := by
  intro code language markup highlighted
  obtain ⟨pieces, equality, rfl⟩ := Option.map_eq_some_iff.mp highlighted
  exact Code.spanned_highlight equality

end DocSite
