import DocSite.Text.Basic
import Mathlib.Data.List.DropRight

/-!
# Cutting and joining

Cutting a text at a character and joining pieces with it undo each other, as long as no piece holds
the character. Each separator at the end of a text makes one empty piece at the end.
-/

namespace DocSite

/-! ## Ends of lists -/

section Ends

variable {α : Type} {p : α → Bool} {x : α}

theorem rdropWhile_append_replicate (dropped : p x) (list : List α) (count : Nat) :
    (list ++ List.replicate count x).rdropWhile p = list.rdropWhile p := by
  have all : ∀ y ∈ List.replicate count x, p y = true := by
    intro y member
    rw [List.eq_of_mem_replicate member]
    exact dropped
  rw [List.rdropWhile, List.reverse_append, List.reverse_replicate,
    List.dropWhile_append_of_pos all]
  rfl

theorem exists_eq_rdropWhile_append_replicate (only : ∀ y, p y → y = x) (list : List α) :
    ∃ count, list = list.rdropWhile p ++ List.replicate count x := by
  have all : ∀ y ∈ list.rtakeWhile p, y = x := fun y member =>
    only y (List.mem_rtakeWhile_imp member)
  refine ⟨(list.rtakeWhile p).length, ?_⟩
  rw [← List.eq_replicate_of_mem all]
  exact List.rdropWhile_append_rtakeWhile.symm

end Ends

namespace Text

/-! ## Literals -/

/-- A literal is the list of its characters, which is quicker to compute with. -/
theorem literal {text : String} {chars : Text} (spelled : text = String.ofList chars) :
    (text : Text) = chars := by
  rw [spelled, String.toList_ofList]

/-! ## Cutting and joining in the library -/

variable {separator : Char}

theorem splitAt_eq_splitOnP (p : Char → Bool) (text : Text) : splitAt p text = text.splitOnP p := by
  induction text with
  | nil => rfl
  | cons c text induction =>
      obtain ⟨piece, pieces, pieces_eq⟩ := List.exists_cons_of_ne_nil (List.splitOnP_ne_nil p text)
      rw [splitAt, induction, List.splitOnP_cons_eq_if_modifyHead, pieces_eq]
      rfl

theorem splitAt_eq_splitOn (text : Text) : splitAt (· == separator) text = text.splitOn separator :=
  splitAt_eq_splitOnP _ text

theorem join_eq_intercalate (separator : Text) (pieces : List Text) :
    join separator pieces = separator.intercalate pieces := by
  induction pieces using join.induct with
  | case1 => rfl
  | case2 text => rw [join, List.intercalate_singleton]
  | case3 text next rest induction => rw [join, induction, List.intercalate_cons_cons]

/-! ## Pieces -/

theorem splitAt_join {pieces : List Text} (whole : ∀ piece ∈ pieces, separator ∉ piece)
    (any : pieces ≠ []) : splitAt (· == separator) (join [separator] pieces) = pieces := by
  rw [splitAt_eq_splitOn, join_eq_intercalate]
  exact List.splitOn_intercalate separator whole any

theorem join_splitAt (text : Text) : join [separator] (splitAt (· == separator) text) = text := by
  rw [splitAt_eq_splitOn, join_eq_intercalate]
  exact List.intercalate_splitOn separator

theorem not_mem_of_mem_splitAt {text piece : Text}
    (member : piece ∈ splitAt (· == separator) text) : separator ∉ piece := by
  rw [splitAt_eq_splitOnP] at member
  induction text generalizing piece with
  | nil => simp_all
  | cons c text induction =>
      obtain ⟨first, rest, pieces_eq⟩ :=
        List.exists_cons_of_ne_nil (List.splitOnP_ne_nil (· == separator) text)
      rw [pieces_eq] at induction
      rw [List.splitOnP_cons_eq_if_modifyHead, pieces_eq] at member
      by_cases same : c = separator
      · simp only [same, beq_self_eq_true, if_true, List.mem_cons] at member
        rcases member with rfl | member
        · exact List.not_mem_nil
        · exact induction (List.mem_cons.mpr member)
      · simp only [beq_iff_eq, if_neg same, List.modifyHead_cons, List.mem_cons] at member
        rcases member with rfl | member
        · exact List.not_mem_cons_of_ne_of_not_mem (Ne.symm same) (induction List.mem_cons_self)
        · exact induction (List.mem_cons_of_mem first member)

theorem splitAt_eq_singleton_iff {text : Text} :
    splitAt (· == separator) text = [text] ↔ separator ∉ text := by
  constructor
  · intro whole
    exact not_mem_of_mem_splitAt (by rw [whole]; exact List.mem_singleton_self text)
  · intro absent
    rw [splitAt_eq_splitOn]
    exact List.splitOn_eq_singleton absent

theorem join_cons (separator first : Text) (pieces : List Text) :
    join separator (first :: pieces) = first ++ pieces.flatMap (separator ++ ·) := by
  induction pieces generalizing first with
  | nil => rw [join, List.flatMap_nil, List.append_nil]
  | cons next pieces induction => rw [join, induction, List.flatMap_cons, List.append_assoc,
      List.append_assoc]

/-! ## Separators at the end -/

theorem splitAt_append_replicate (text : Text) (count : Nat) :
    splitAt (· == separator) (text ++ List.replicate count separator) =
      splitAt (· == separator) text ++ List.replicate count [] := by
  simp only [splitAt_eq_splitOn]
  induction count with
  | zero => simp
  | succ count induction =>
      rw [List.replicate_succ', ← List.append_assoc, List.splitOn_append_cons_self, induction,
        List.replicate_succ', List.append_assoc]
      rfl

theorem join_append_replicate {pieces : List Text} (whole : ∀ piece ∈ pieces, separator ∉ piece)
    (any : pieces ≠ []) (count : Nat) :
    join [separator] (pieces ++ List.replicate count []) =
      join [separator] pieces ++ List.replicate count separator := by
  rw [← join_splitAt (join [separator] pieces ++ List.replicate count separator),
    splitAt_append_replicate, splitAt_join whole any]

end Text

end DocSite
