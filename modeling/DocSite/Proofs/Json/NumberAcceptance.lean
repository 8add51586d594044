import Mathlib.Data.List.TakeWhile
import DocSite.Proofs.Json.StringAcceptance

/-!
# Which numbers the reader of JSON passes

A number does not tell by itself where it ends. As long as what follows it cannot be a part of it,
the reader takes all of it and no more.
-/

namespace DocSite.Json

variable {cursor : Cursor} {rest : Text}

/-! ## Digits -/

theorem dropWhile_digits {digits : Text} (areDigits : ∀ c ∈ digits, Text.isAsciiDigit c)
    (stops : Stops rest) : (digits ++ rest).dropWhile Text.isAsciiDigit = rest := by
  rw [List.dropWhile_append_of_pos areDigits]
  cases rest with
  | nil => rfl
  | cons c rest => simp [stops c rfl]

theorem exists_isDigits_iff {text : Text} (stops : Stops rest) :
    (∃ digits, IsDigits digits ∧ text = digits ++ rest) ↔
      (∃ c more, text = c :: more ∧ Text.isAsciiDigit c) ∧
        text.dropWhile Text.isAsciiDigit = rest := by
  constructor
  · rintro ⟨digits, ⟨some, areDigits⟩, rfl⟩
    obtain ⟨c, more, rfl⟩ := List.exists_cons_of_ne_nil some
    have isDigit := areDigits c List.mem_cons_self
    exact ⟨⟨c, more ++ rest, rfl, isDigit⟩, dropWhile_digits areDigits stops⟩
  · rintro ⟨⟨c, more, rfl, isDigit⟩, rfl⟩
    have areDigits : IsDigits ((c :: more).takeWhile Text.isAsciiDigit) :=
      ⟨by simp [isDigit], fun c member => List.mem_takeWhile_imp member⟩
    exact ⟨_, areDigits, List.takeWhile_append_dropWhile.symm⟩

/-- Passes digits, of which there must be one. -/
def skipSomeDigits (cursor : Cursor) : Except Failure Cursor :=
  match cursor.rest with
  | [] => cursor.failHere .invalidNumber
  | c :: _ =>
    if Text.isAsciiDigit c then .ok (skipDigits cursor) else cursor.failNext .invalidNumber

theorem passes_skipSomeDigits_iff (stops : Stops rest) :
    Passes (skipSomeDigits cursor) rest ↔
      ∃ digits, IsDigits digits ∧ cursor.rest = digits ++ rest := by
  rw [exists_isDigits_iff stops]
  obtain ⟨place, text⟩ := cursor
  cases text with
  | nil => simp [skipSomeDigits]
  | cons c text =>
      cases isDigit : Text.isAsciiDigit c <;>
        simp [skipSomeDigits, skipDigits, Cursor.skipWhile, isDigit]

/-! ## Numbers -/

/-- What follows a number and is no part of it. -/
def Follows (rest : Text) : Prop :=
  ∀ c, rest.head? = some c → Text.isAsciiDigit c = false ∧ c ≠ '.' ∧ c ≠ 'e' ∧ c ≠ 'E'

theorem Follows.stops (follows : Follows rest) : Stops rest :=
  fun c head => (follows c head).1

/-- Passes the sign of an exponent if there is one. -/
def skipSign (cursor : Cursor) : Cursor :=
  match cursor.rest with
  | '+' :: _ => cursor.next
  | '-' :: _ => cursor.next
  | _ => cursor

theorem skipExponent_eq : skipExponent cursor = skipSomeDigits (skipSign cursor.next) :=
  rfl

theorem rest_skipSign_eq_iff {digits : Text} (isDigits : IsDigits digits) :
    (skipSign cursor).rest = digits ++ rest ↔
      ∃ sign ∈ [[], ['+'], ['-']], cursor.rest = sign ++ (digits ++ rest) := by
  obtain ⟨place, text⟩ := cursor
  obtain ⟨c, more, rfl⟩ := List.exists_cons_of_ne_nil isDigits.1
  have isDigit := isDigits.2 c List.mem_cons_self
  have noSign : c ≠ '+' ∧ c ≠ '-' := by
    constructor <;> rintro rfl <;> nomatch isDigit
  unfold skipSign
  dsimp only
  split
  · simp [Cursor.next, noSign.1.symm]
  · simp [Cursor.next, noSign.2.symm]
  · next noPlus noMinus =>
      constructor
      · rintro rfl
        exact ⟨[], by simp⟩
      · rintro ⟨sign, isSign, rfl⟩
        simp only [List.mem_cons, List.not_mem_nil, or_false] at isSign
        rcases isSign with rfl | rfl | rfl
        · rfl
        · exact (noPlus _ rfl).elim
        · exact (noMinus _ rfl).elim

theorem passes_skipExponent_iff {mark : Char} {text : Text} (opened : cursor.rest = mark :: text)
    (stops : Stops rest) :
    Passes (skipExponent cursor) rest ↔ ∃ sign ∈ [[], ['+'], ['-']], ∃ digits,
      IsDigits digits ∧ text = sign ++ (digits ++ rest) := by
  have behind : cursor.next.rest = text := by rw [rest_next, opened, List.tail_cons]
  rw [skipExponent_eq, passes_skipSomeDigits_iff stops, ← behind]
  constructor
  · rintro ⟨digits, isDigits, same⟩
    obtain ⟨sign, isSign, same⟩ := (rest_skipSign_eq_iff isDigits).mp same
    exact ⟨sign, isSign, digits, isDigits, same⟩
  · rintro ⟨sign, isSign, digits, isDigits, same⟩
    exact ⟨digits, isDigits, (rest_skipSign_eq_iff isDigits).mpr ⟨sign, isSign, same⟩⟩

/-- Behind an exponent's mark there is the rest of an exponent. -/
theorem exists_isExponent_iff {mark : Char} {text : Text} (isMark : mark = 'e' ∨ mark = 'E')
    (follows : Follows rest) :
    (∃ exponent, IsExponent exponent ∧ mark :: text = exponent ++ rest) ↔
      ∃ sign ∈ [[], ['+'], ['-']], ∃ digits, IsDigits digits ∧
        text = sign ++ (digits ++ rest) := by
  constructor
  · rintro ⟨exponent, isExponent, same⟩
    cases isExponent with
    | none =>
        obtain ⟨-, -, small, capital⟩ := follows mark (congrArg List.head? same.symm)
        exact (isMark.elim small capital).elim
    | digits _ isSign isDigits =>
        rw [List.cons_append, List.append_assoc] at same
        exact ⟨_, isSign, _, isDigits, (List.cons.inj same).2⟩
  · rintro ⟨sign, isSign, digits, isDigits, rfl⟩
    exact ⟨_, .digits isMark isSign isDigits, by rw [List.cons_append, List.append_assoc]⟩

theorem passes_skipExponent?_iff (follows : Follows rest) :
    Passes (skipExponent? cursor) rest ↔
      ∃ exponent, IsExponent exponent ∧ cursor.rest = exponent ++ rest := by
  unfold skipExponent?
  split
  · next opened =>
      rw [passes_skipExponent_iff opened follows.stops, opened,
        exists_isExponent_iff (.inl rfl) follows]
  · next opened =>
      rw [passes_skipExponent_iff opened follows.stops, opened,
        exists_isExponent_iff (.inr rfl) follows]
  · next noSmall noCapital =>
      rw [passes_ok_iff]
      constructor
      · rintro rfl
        exact ⟨[], .none, rfl⟩
      · rintro ⟨exponent, isExponent, same⟩
        cases isExponent with
        | none => exact same
        | digits isMark =>
            rcases isMark with rfl | rfl
            · exact (noSmall _ same).elim
            · exact (noCapital _ same).elim

/-! ## Fractions -/

theorem IsExponent.head_append {exponent : Text} (isExponent : IsExponent exponent)
    (follows : Follows rest) (c : Char) (head : (exponent ++ rest).head? = some c) :
    Text.isAsciiDigit c = false ∧ c ≠ '.' := by
  cases isExponent with
  | none => exact ⟨(follows c head).1, (follows c head).2.1⟩
  | digits isMark =>
      cases head
      rcases isMark with rfl | rfl <;> exact ⟨rfl, nofun⟩

theorem IsFraction.stops {fraction exponent : Text} (isFraction : IsFraction fraction)
    (isExponent : IsExponent exponent) (follows : Follows rest) :
    Stops (fraction ++ (exponent ++ rest)) := by
  cases isFraction with
  | none => exact fun c head => (isExponent.head_append follows c head).1
  | digits =>
      rintro c ⟨⟩
      rfl

/-- What may follow the integer part of a number. -/
def IsTail (rest text : Text) : Prop :=
  ∃ fraction exponent, IsFraction fraction ∧ IsExponent exponent ∧
    text = fraction ++ (exponent ++ rest)

theorem IsTail.stops {text : Text} (isTail : IsTail rest text) (follows : Follows rest) :
    Stops text := by
  obtain ⟨fraction, exponent, isFraction, isExponent, rfl⟩ := isTail
  exact isFraction.stops isExponent follows

/-- Behind a point there must be digits, and perhaps an exponent behind them. -/
theorem passes_skipFraction_point {text : Text} (opened : cursor.rest = '.' :: text) :
    Passes (skipFraction cursor) rest ↔
      Passes (skipSomeDigits cursor.next >>= skipExponent?) rest := by
  obtain ⟨place, _⟩ := cursor
  obtain rfl : _ = '.' :: text := opened
  cases text with
  | nil => simp [skipFraction, skipSomeDigits, Cursor.next, Cursor.failHere]
  | cons c text =>
      cases isDigit : Text.isAsciiDigit c <;>
        simp [skipFraction, skipSomeDigits, Cursor.next, isDigit, passes_bind_iff]

theorem passes_skipFraction_iff (follows : Follows rest) :
    Passes (skipFraction cursor) rest ↔ IsTail rest cursor.rest := by
  by_cases point : ∃ text, cursor.rest = '.' :: text
  · obtain ⟨text, opened⟩ := point
    have behind : cursor.next.rest = text := by rw [rest_next, opened, List.tail_cons]
    rw [passes_skipFraction_point opened, passes_then_iff
      (fun between => ∃ exponent, IsExponent exponent ∧ between = exponent ++ rest)
      fun _ _ => passes_skipExponent?_iff follows]
    constructor
    · rintro ⟨_, passes, exponent, isExponent, rfl⟩
      obtain ⟨digits, isDigits, same⟩ :=
        (passes_skipSomeDigits_iff (IsFraction.none.stops isExponent follows)).mp passes
      exact ⟨_, exponent, .digits isDigits, isExponent, by rw [opened, ← behind, same]; rfl⟩
    · rintro ⟨fraction, exponent, isFraction, isExponent, same⟩
      refine ⟨_, ?_, exponent, isExponent, rfl⟩
      cases isFraction with
      | none =>
          have head : (exponent ++ rest).head? = some '.' :=
            congrArg List.head? (same.symm.trans opened)
          exact ((isExponent.head_append follows '.' head).2 rfl).elim
      | digits isDigits =>
          exact (passes_skipSomeDigits_iff (IsFraction.none.stops isExponent follows)).mpr
            ⟨_, isDigits, behind.trans (List.cons.inj (opened.symm.trans same)).2⟩
  · unfold skipFraction
    split
    · next opened => exact (point ⟨_, opened⟩).elim
    · rw [passes_skipExponent?_iff follows]
      constructor
      · rintro ⟨exponent, isExponent, same⟩
        exact ⟨[], exponent, .none, isExponent, same⟩
      · rintro ⟨fraction, exponent, isFraction, isExponent, same⟩
        cases isFraction with
        | none => exact ⟨exponent, isExponent, same⟩
        | digits => exact (point ⟨_, same⟩).elim

/-! ## Numbers as a whole -/

theorem exists_isUnsigned_iff {text : Text} :
    (∃ written, IsUnsigned written ∧ text = written ++ rest) ↔
      ∃ whole behind, IsWhole whole ∧ text = whole ++ behind ∧ IsTail rest behind := by
  constructor
  · rintro ⟨_, ⟨whole, fraction, exponent, rfl, isWhole, isFraction, isExponent⟩, rfl⟩
    refine ⟨whole, fraction ++ (exponent ++ rest), isWhole, ?_, _, _, isFraction, isExponent, rfl⟩
    rw [List.append_assoc, List.append_assoc]
  · rintro ⟨whole, _, isWhole, rfl, fraction, exponent, isFraction, isExponent, rfl⟩
    refine ⟨_, ⟨whole, fraction, exponent, rfl, isWhole, isFraction, isExponent⟩, ?_⟩
    rw [List.append_assoc, List.append_assoc]

theorem exists_isWhole_zero_iff {text : Text} :
    (∃ whole behind, IsWhole whole ∧ '0' :: text = whole ++ behind ∧ IsTail rest behind) ↔
      IsTail rest text := by
  constructor
  · rintro ⟨whole, behind, isWhole, same, isTail⟩
    cases isWhole with
    | zero => rwa [(List.cons.inj same).2]
    | digits noZero => exact (noZero (List.cons.inj same).1.symm).elim
  · exact fun isTail => ⟨_, text, .zero, rfl, isTail⟩

theorem exists_isWhole_iff {c : Char} {text : Text} (noZero : c ≠ '0') (follows : Follows rest) :
    (∃ whole behind, IsWhole whole ∧ c :: text = whole ++ behind ∧ IsTail rest behind) ↔
      Text.isAsciiDigit c ∧ IsTail rest ((c :: text).dropWhile Text.isAsciiDigit) := by
  constructor
  · rintro ⟨whole, behind, isWhole, same, isTail⟩
    cases isWhole with
    | zero => exact (noZero (List.cons.inj same).1).elim
    | @digits first _ _ isDigits =>
        rw [same, dropWhile_digits isDigits.2 (isTail.stops follows), (List.cons.inj same).1]
        exact ⟨isDigits.2 first List.mem_cons_self, isTail⟩
  · rintro ⟨isDigit, isTail⟩
    obtain ⟨digits, isDigits, same⟩ := (exists_isDigits_iff (isTail.stops follows)).mpr
      ⟨⟨c, text, rfl, isDigit⟩, rfl⟩
    refine ⟨digits, _, ?_, same, isTail⟩
    obtain ⟨first, more, rfl⟩ := List.exists_cons_of_ne_nil isDigits.1
    exact .digits ((List.cons.inj same).1 ▸ noZero) isDigits

theorem passes_skipNumber_iff (follows : Follows rest) :
    Passes (skipNumber cursor) rest ↔
      ∃ written, IsUnsigned written ∧ cursor.rest = written ++ rest := by
  rw [exists_isUnsigned_iff]
  unfold skipNumber
  split
  · next ends =>
      rw [ends]
      refine iff_of_false nofun ?_
      rintro ⟨_, behind, isWhole, same, -⟩
      obtain ⟨rfl, -⟩ := List.append_eq_nil_iff.mp same.symm
      nomatch isWhole
  · next text opened =>
      have behind : cursor.next.rest = text := by rw [rest_next, opened, List.tail_cons]
      rw [opened, exists_isWhole_zero_iff]
      split
      · next c _ =>
          split
          · next isDigit =>
              refine iff_of_false nofun fun isTail => ?_
              have noDigit := isTail.stops follows c rfl
              simp [noDigit] at isDigit
          · rw [passes_skipFraction_iff follows, behind]
      · rw [passes_ok_iff, behind]
        constructor
        · rintro rfl
          exact ⟨[], [], .none, .none, rfl⟩
        · rintro ⟨fraction, exponent, -, -, same⟩
          exact (List.append_eq_nil_iff.mp (List.append_eq_nil_iff.mp same.symm).2).2.symm
  · next c text noZero opened =>
      rw [opened, exists_isWhole_iff noZero follows]
      split
      · next isDigit =>
          rw [passes_skipFraction_iff follows, ← opened, and_iff_right isDigit]
          rfl
      · next noDigit => exact iff_of_false nofun fun found => noDigit found.1

end DocSite.Json
