import DocSite.Config.Reference
import DocSite.Proofs.Text.Digits
import DocSite.Proofs.Text.Search

/-!
# How texts with references are read

The pieces of a text are given by a grammar: a dollar sign belongs to a closed reference in braces,
to the longest name behind it, or to a second dollar sign, and stands alone only if it begins none
of these. There is one way to read a text, and nothing of the text is lost. In a text with a dollar
sign before a brace, names and pairs of dollar signs outside braces are expanded as well.
-/

namespace DocSite.Config

/-! ## The grammar -/

/-- A dollar sign in front of the text begins no piece. -/
def StandsAlone (rest : Text) : Prop :=
  ∀ c ∈ rest.head?, isNameChar c = false ∧ c ≠ '$' ∧ (c = '\x7b' → '\x7d' ∉ rest)

/-- A text is read as pieces. -/
inductive ReadAs : Text → List Piece → Prop
  /-- An empty text has no pieces. -/
  | nil : ReadAs [] []
  /-- A character other than the dollar sign. -/
  | plain {c : Char} {rest : Text} {pieces : List Piece} (other : c ≠ '$')
      (behind : ReadAs rest pieces) : ReadAs (c :: rest) (.plain c :: pieces)
  /-- A dollar sign by itself. -/
  | alone {rest : Text} {pieces : List Piece} (alone : StandsAlone rest)
      (behind : ReadAs rest pieces) : ReadAs ('$' :: rest) (.plain '$' :: pieces)
  /-- Two dollar signs. -/
  | doubled {rest : Text} {pieces : List Piece} (behind : ReadAs rest pieces) :
      ReadAs ('$' :: '$' :: rest) (.doubled :: pieces)
  /-- A name that goes as far as it can. -/
  | bare {name rest : Text} {pieces : List Piece} (any : name ≠ [])
      (all : ∀ c ∈ name, isNameChar c = true) (ends : ∀ c ∈ rest.head?, isNameChar c = false)
      (behind : ReadAs rest pieces) : ReadAs ('$' :: (name ++ rest)) (.bare name :: pieces)
  /-- Braces up to the first one that closes. -/
  | braced {content rest : Text} {pieces : List Piece} (whole : '\x7d' ∉ content)
      (behind : ReadAs rest pieces) :
      ReadAs ('$' :: '\x7b' :: (content ++ '\x7d' :: rest)) (.braced content :: pieces)

/-- Nothing of a text is lost. -/
theorem ReadAs.flatMap_source {text : Text} {pieces : List Piece} (read : ReadAs text pieces) :
    pieces.flatMap Piece.source = text := by
  induction read with
  | nil => rfl
  | braced whole behind induction =>
      rw [List.flatMap_cons, induction, Piece.source]
      simp only [List.cons_append, List.append_assoc, List.nil_append]
  | _ => simp_all [Piece.source]

/-! ## Splitting -/

namespace Piece

theorem exists_source_eq_cons (piece : Piece) : ∃ c rest, piece.source = c :: rest := by
  cases piece with
  | plain c => exact ⟨c, [], rfl⟩
  | doubled => exact ⟨'$', ['$'], rfl⟩
  | bare name => exact ⟨'$', name, rfl⟩
  | braced content => exact ⟨'$', _, rfl⟩

theorem splitFrom_eq (skip : Nat) (text : Text) : splitFrom skip text = split (text.drop skip) := by
  induction text generalizing skip with
  | nil => cases skip <;> rfl
  | cons c rest induction =>
      cases skip with
      | zero => rfl
      | succ skip => exact induction skip

theorem split_plain {c : Char} (other : c ≠ '$') (rest : Text) :
    split (c :: rest) = plain c :: split rest := by
  simp only [split, splitFrom, beq_false_of_ne other]
  rfl

theorem split_dollar {rest : Text} (behind : Text)
    (whole : '$' :: rest = (behindDollar rest).source ++ behind) :
    split ('$' :: rest) = behindDollar rest :: split behind := by
  obtain ⟨first, others, source⟩ := (behindDollar rest).exists_source_eq_cons
  have next : rest.drop ((behindDollar rest).source.length - 1) = behind := by
    rw [source, List.cons_append, List.cons.injEq] at whole
    rw [source, whole.2, List.length_cons, Nat.add_sub_cancel, List.drop_left]
  rw [split, splitFrom]
  simp only [beq_self_eq_true, if_true]
  rw [splitFrom_eq, next]

/-! ### Behind a dollar sign -/

theorem not_isNameChar_brace : isNameChar '\x7b' = false := by
  decide

theorem not_isNameChar_dollar : isNameChar '$' = false := by
  decide

theorem behindDollar_alone {rest : Text} (alone : StandsAlone rest) :
    behindDollar rest = plain '$' := by
  cases rest with
  | nil => rfl
  | cons c rest =>
      obtain ⟨notName, other, unclosed⟩ := alone c rfl
      rw [behindDollar]
      by_cases brace : c = '\x7b'
      · have unclosed := List.not_mem_of_not_mem_cons (unclosed brace)
        simp [brace, unclosed]
      · simp [brace, notName, other]

theorem behindDollar_doubled (rest : Text) : behindDollar ('$' :: rest) = doubled := by
  simp [behindDollar, not_isNameChar_dollar]

theorem behindDollar_bare {name rest : Text} (any : name ≠ [])
    (all : ∀ c ∈ name, isNameChar c = true) (ends : ∀ c ∈ rest.head?, isNameChar c = false) :
    behindDollar (name ++ rest) = bare name := by
  obtain ⟨c, name, rfl⟩ := List.exists_cons_of_ne_nil any
  rw [List.forall_mem_cons] at all
  have notBrace : c ≠ '\x7b' := by
    rintro rfl
    exact absurd all.1 (by rw [not_isNameChar_brace]; decide)
  rw [List.cons_append, behindDollar, Text.takeWhile_run all.2 ends]
  simp [notBrace, all.1]

theorem behindDollar_braced {content : Text} (whole : '\x7d' ∉ content) (rest : Text) :
    behindDollar ('\x7b' :: (content ++ '\x7d' :: rest)) = braced content := by
  have inside : ∀ c ∈ content, (c != '\x7d') = true := by
    intro c member
    exact bne_iff_ne.mpr fun same => whole (same ▸ member)
  have content_eq : (content ++ '\x7d' :: rest).takeWhile (· != '\x7d') = content := by
    rw [List.takeWhile_append_of_pos inside, List.takeWhile_cons_of_neg (by simp),
      List.append_nil]
  rw [behindDollar, content_eq]
  simp

end Piece

/-! ## One way to read a text -/

theorem ReadAs.split_eq {text : Text} {pieces : List Piece} (read : ReadAs text pieces) :
    Piece.split text = pieces := by
  induction read with
  | nil => rfl
  | plain other behind induction => rw [Piece.split_plain other, induction]
  | @alone rest pieces alone behind induction =>
      have piece := Piece.behindDollar_alone alone
      rw [Piece.split_dollar rest (by rw [piece]; rfl), piece, induction]
  | @doubled rest pieces behind induction =>
      have piece := Piece.behindDollar_doubled rest
      rw [Piece.split_dollar rest (by rw [piece]; rfl), piece, induction]
  | @bare name rest pieces any all ends behind induction =>
      have piece := Piece.behindDollar_bare any all ends
      rw [Piece.split_dollar rest (by rw [piece]; rfl), piece, induction]
  | @braced content rest pieces whole behind induction =>
      have piece := Piece.behindDollar_braced whole rest
      rw [Piece.split_dollar rest (by rw [piece]; simp [Piece.source]), piece,
        induction]

/-- A name is read as far as it goes. -/
theorem ReadAs.longest {c : Char} {rest : Text} {pieces : List Piece} (named : isNameChar c = true)
    (behind : ReadAs ((c :: rest).dropWhile isNameChar) pieces) :
    ReadAs ('$' :: c :: rest) (.bare ((c :: rest).takeWhile isNameChar) :: pieces) := by
  have any : (c :: rest).takeWhile isNameChar ≠ [] := by simp [named]
  have ends : ∀ d ∈ ((c :: rest).dropWhile isNameChar).head?, isNameChar d = false := by
    intro d first
    have stops := List.head?_dropWhile_not isNameChar (c :: rest)
    rwa [Option.mem_def.mp first] at stops
  have read := ReadAs.bare any (fun _ => List.mem_takeWhile_imp) ends behind
  rwa [List.takeWhile_append_dropWhile] at read

/-- Each dollar sign begins a piece. -/
theorem exists_readAs_dollar (rest : Text) :
    ∃ piece behind, behind.length ≤ rest.length ∧
      ∀ {pieces}, ReadAs behind pieces → ReadAs ('$' :: rest) (piece :: pieces) := by
  cases rest with
  | nil => exact ⟨.plain '$', [], Nat.le_refl 0, .alone nofun⟩
  | cons c rest =>
      by_cases brace : c = '\x7b'
      · subst brace
        by_cases closed : '\x7d' ∈ rest
        · obtain ⟨content, behind, rfl, whole⟩ := List.eq_append_cons_of_mem closed
          refine ⟨.braced content, behind, ?_, .braced whole⟩
          simp only [List.length_cons, List.length_append]
          omega
        · have alone : StandsAlone ('\x7b' :: rest) := by
            rintro c ⟨⟩
            exact ⟨Piece.not_isNameChar_brace, by decide, fun _ => by simp [closed]⟩
          exact ⟨.plain '$', _, Nat.le_refl _, .alone alone⟩
      by_cases named : isNameChar c = true
      · exact ⟨.bare ((c :: rest).takeWhile isNameChar), (c :: rest).dropWhile isNameChar,
          (List.dropWhile_sublist _).length_le, .longest named⟩
      by_cases dollar : c = '$'
      · subst dollar
        exact ⟨.doubled, rest, Nat.le_succ _, .doubled⟩
      · have alone : StandsAlone (c :: rest) := by
          rintro c ⟨⟩
          exact ⟨Bool.eq_false_iff.mpr named, dollar, fun same => absurd same brace⟩
        exact ⟨.plain '$', c :: rest, Nat.le_refl _, .alone alone⟩

theorem exists_readAs (text : Text) : ∃ pieces, ReadAs text pieces := by
  induction length : text.length using Nat.strong_induction_on generalizing text with
  | _ n induction =>
      subst length
      cases text with
      | nil => exact ⟨[], .nil⟩
      | cons c rest =>
          by_cases dollar : c = '$'
          · subst dollar
            obtain ⟨piece, behind, shorter, read⟩ := exists_readAs_dollar rest
            obtain ⟨pieces, readBehind⟩ :=
              induction behind.length (Nat.lt_succ_of_le shorter) behind rfl
            exact ⟨piece :: pieces, read readBehind⟩
          · obtain ⟨pieces, readBehind⟩ :=
              induction rest.length (Nat.lt_succ_self _) rest rfl
            exact ⟨.plain c :: pieces, .plain dollar readBehind⟩

/-- The pieces of a text are those as which it can be read. -/
theorem readAs_iff {text : Text} {pieces : List Piece} :
    ReadAs text pieces ↔ Piece.split text = pieces := by
  constructor
  · exact ReadAs.split_eq
  · rintro rfl
    obtain ⟨pieces, read⟩ := exists_readAs text
    rwa [read.split_eq]

/-! ## Outside braces -/

/-- A piece that is a reference in braces. -/
def Piece.isBraced : Piece → Bool
  | braced _ => true
  | _ => false

/-- What stands in the place of a piece when a text is expanded. -/
def shownFor (environment : Environment) (text : Text) (piece : Piece) : Text :=
  if hasReference text then piece.value environment else piece.source

/-- A piece outside braces that stands for something else: two dollar signs, or a name of a variable
with another value than the reference itself. -/
inductive Altered (environment : Environment) : Piece → Prop
  /-- One of two dollar signs goes. -/
  | doubled : Altered environment .doubled
  /-- A value takes the place of a name. -/
  | bare {name value : Text} (given : environment name = some value)
      (other : value ≠ '$' :: name) : Altered environment (.bare name)

theorem Piece.value_eq_source_iff {environment : Environment} {piece : Piece}
    (outside : piece.isBraced = false) :
    piece.value environment = piece.source ↔ ¬Altered environment piece := by
  cases piece with
  | plain c => exact ⟨fun _ => nofun, fun _ => rfl⟩
  | doubled =>
      exact ⟨fun same => by simp [value, source] at same, fun kept => absurd .doubled kept⟩
  | bare name =>
      rw [value]
      cases given : environment name with
      | none =>
          refine ⟨fun _ altered => ?_, fun _ => rfl⟩
          cases altered with
          | bare found =>
              rw [given] at found
              nomatch found
      | some found =>
          rw [Option.getD_some]
          constructor
          · intro same altered
            cases altered with
            | bare again other =>
                rw [given, Option.some.injEq] at again
                exact other (again ▸ same)
          · intro kept
            exact Classical.byContradiction fun other => kept (.bare given other)
  | braced content => nomatch outside

theorem hasReference_iff (text : Text) : hasReference text = true ↔ ['$', '\x7b'] <:+: text :=
  Text.contains_iff_isInfix _ text

theorem eq_flatMap_shownFor {environment : Environment} {text expanded : Text}
    (succeeds : expand environment text = .ok expanded) :
    expanded = (Piece.split text).flatMap (shownFor environment text) := by
  unfold shownFor
  rw [expand] at succeeds
  by_cases has : hasReference text = true
  · rw [if_pos has] at succeeds
    simp only [if_pos has]
    dsimp only at succeeds
    split at succeeds
    · nomatch succeeds
    · exact (Except.ok.inj succeeds).symm
  · rw [if_neg has] at succeeds
    simp only [if_neg has]
    rw [(readAs_iff.mpr rfl).flatMap_source]
    exact (Except.ok.inj succeeds).symm

/-- A piece outside braces is kept, unless there is a dollar sign before a brace somewhere in the
text and the piece is a pair of dollar signs or the name of a variable with another value. -/
theorem kept_outside_braces_iff {environment : Environment} {text expanded : Text}
    (succeeds : expand environment text = .ok expanded) :
    ∃ pieces, ReadAs text pieces ∧ expanded = pieces.flatMap (shownFor environment text) ∧
      ∀ piece ∈ pieces, piece.isBraced = false →
        (shownFor environment text piece = piece.source ↔
          ¬(['$', '\x7b'] <:+: text ∧ Altered environment piece)) := by
  refine ⟨Piece.split text, readAs_iff.mpr rfl, eq_flatMap_shownFor succeeds, ?_⟩
  intro piece _ outside
  rw [← hasReference_iff, shownFor]
  split_ifs with has
  · rw [Piece.value_eq_source_iff outside, not_and]
    exact ⟨fun kept _ => kept, fun kept => kept has⟩
  · exact ⟨fun _ both => has both.1, fun _ => rfl⟩

/-- A name in front of braces, two dollar signs, one by itself, and the name of no variable. -/
theorem kept_outside_braces_iff_mixed :
    let environment : Environment := fun name =>
      if name = "NAME".toList then some "a".toList else none
    let text : Text := "$NAME $$ $ $NONE $\x7bNAME\x7d"
    expand environment text = .ok "a $ $ $NONE a".toList ∧
      ∃ pieces, ReadAs text pieces ∧
        "a $ $ $NONE a".toList = pieces.flatMap (shownFor environment text) ∧
        ∀ piece ∈ pieces, piece.isBraced = false →
          (shownFor environment text piece = piece.source ↔
            ¬(['$', '\x7b'] <:+: text ∧ Altered environment piece)) := by
  intro environment text
  have succeeds : expand environment text = .ok "a $ $ $NONE a".toList := by
    decide +kernel
  exact ⟨succeeds, kept_outside_braces_iff succeeds⟩

end DocSite.Config
