import Mathlib.Data.List.Infix
import DocSite.Text.Basic

/-!
# Searching

A text contains a part if the part stands somewhere in it without a gap. In a text that is put
together of two, a part begins in the first one or lies in the second one.
-/

namespace DocSite.Text

theorem contains_iff_isInfix (part text : Text) : contains part text = true ↔ part <:+: text := by
  induction text with
  | nil => rw [contains, List.isEmpty_iff, List.infix_nil]
  | cons c rest induction =>
      rw [contains, Bool.or_eq_true, induction, List.infix_cons_iff, startsWith,
        List.isPrefixOf_iff_prefix]

/-- Whether `part` begins in a text with `rest` behind it. -/
def beginsIn (part rest : Text) : Text → Bool
  | [] => false
  | c :: text => startsWith (c :: text ++ rest) part || beginsIn part rest text

theorem contains_append (part text rest : Text) :
    contains part (text ++ rest) = (beginsIn part rest text || contains part rest) := by
  induction text with
  | nil => rfl
  | cons c text induction =>
      rw [List.cons_append, contains, induction, beginsIn, Bool.or_assoc, List.cons_append]

theorem startsWith_cons_cons (c d : Char) (text part : Text) :
    startsWith (c :: text) (d :: part) = (d == c && startsWith text part) :=
  rfl

/-- A part begins nowhere in a text without its first character. -/
theorem beginsIn_of_not_mem {first : Char} {text : Text} (absent : first ∉ text)
    (part rest : Text) : beginsIn (first :: part) rest text = false := by
  induction text with
  | nil => rfl
  | cons c text induction =>
      rw [List.mem_cons, not_or] at absent
      rw [beginsIn, induction absent.2, List.cons_append, startsWith_cons_cons,
        beq_false_of_ne absent.1]
      rfl

/-- Of two texts with an end that neither of them holds, the one begins with the other only if they
are the same. -/
theorem startsWith_closed {left right : Text} {last : Char} (leftWhole : last ∉ left)
    (rightWhole : last ∉ right) (rest : Text) :
    startsWith (left ++ last :: rest) (right ++ [last]) = decide (left = right) := by
  induction left generalizing right with
  | nil =>
      cases right with
      | nil => simp [startsWith, List.isPrefixOf]
      | cons d right =>
          rw [List.mem_cons, not_or] at rightWhole
          simp [startsWith_cons_cons, Ne.symm rightWhole.1]
  | cons c left induction =>
      rw [List.mem_cons, not_or] at leftWhole
      cases right with
      | nil => simp [startsWith_cons_cons, leftWhole.1]
      | cons d right =>
          rw [List.mem_cons, not_or] at rightWhole
          rw [List.cons_append, List.cons_append, startsWith_cons_cons,
            induction leftWhole.2 rightWhole.2, Bool.eq_iff_iff]
          simp only [Bool.and_eq_true, beq_iff_eq, decide_eq_true_eq, List.cons.injEq,
            @eq_comm _ d c]

/-- A part without a character lies on one side of it. -/
theorem contains_append_cons {stop : Char} {part : Text} (any : part ≠ []) (apart : stop ∉ part)
    (left right : Text) :
    contains part (left ++ stop :: right) = (contains part left || contains part right) := by
  have starts (left : Text) : startsWith (left ++ stop :: right) part = startsWith left part := by
    clear any
    induction part generalizing left with
    | nil => cases left <;> rfl
    | cons d part induction =>
        rw [List.mem_cons, not_or] at apart
        cases left with
        | nil =>
            rw [List.nil_append, startsWith_cons_cons, beq_false_of_ne (Ne.symm apart.1)]
            rfl
        | cons c left =>
            rw [List.cons_append, startsWith_cons_cons, startsWith_cons_cons, induction apart.2]
  induction left with
  | nil =>
      have start := starts []
      rw [List.nil_append] at start ⊢
      rw [contains, contains, start]
      congr 1
      cases part with
      | nil => exact absurd rfl any
      | cons d part => rfl
  | cons c left induction =>
      have start := starts (c :: left)
      rw [List.cons_append] at start ⊢
      rw [contains, contains, start, induction, Bool.or_assoc]

end DocSite.Text
