import DocSite.Proofs.Text.Digits
import DocSite.Web.SocketAddress
import Mathlib.Data.List.DropRight

/-!
# Which texts are addresses to serve on

An address is a host, a colon and the number of a port. A host is written as four bytes, or as eight
groups in brackets; everything else, such as a name or eight groups without brackets, is none.
-/

namespace DocSite.Web

/-! ## Numbers -/

/-- A decimal number up to a bound. -/
structure IsDecimal (greatest : Nat) (digits : Text) (number : Nat) : Prop where
  any : digits ≠ []
  all : ∀ c ∈ digits, Text.isAsciiDigit c
  value : Text.decimalValue digits = number
  bound : number ≤ greatest

/-- A decimal number of one byte, in at most three digits and without a zero before others. -/
structure IsByte (digits : Text) (number : Nat) : Prop extends IsDecimal 255 digits number where
  short : digits.length ≤ 3
  plain : digits.head? = some '0' → digits.length ≤ 1

/-- A hexadecimal number of two bytes, in at most four digits. -/
structure IsGroup (digits : Text) (number : Nat) : Prop where
  any : digits ≠ []
  all : ∀ c ∈ digits, Text.isHexDigit c
  value : Text.hexadecimalValue digits = number
  short : digits.length ≤ 4

/-! ## Hosts -/

/-- Four bytes with points between them. -/
inductive IsFourBytes : Text → List Nat → Prop
  | mk {a b c d : Text} {i j k l : Nat} (first : IsByte a i) (second : IsByte b j)
      (third : IsByte c k) (fourth : IsByte d l) :
      IsFourBytes (a ++ '.' :: (b ++ '.' :: (c ++ '.' :: d))) [i, j, k, l]

/-- What stands before a group: a colon, unless it is the first one of its row. -/
def colonBefore (isFirst : Bool) : Text :=
  if isFirst then [] else [':']

/-- A row of groups, or what is left of one behind its first groups. Four bytes at its end stand for
two groups. -/
inductive IsRow : (isFirst : Bool) → Text → (groups : List Nat) → (bytesAtEnd : Bool) → Prop
  | none {isFirst : Bool} : IsRow isFirst [] [] false
  | group {isFirst bytesAtEnd : Bool} {digits rest : Text} {number : Nat} {groups : List Nat}
      (isGroup : IsGroup digits number) (behind : IsRow false rest groups bytesAtEnd) :
      IsRow isFirst (colonBefore isFirst ++ (digits ++ rest)) (number :: groups) bytesAtEnd
  | bytes {isFirst : Bool} {text : Text} {a b c d : Nat} (four : IsFourBytes text [a, b, c, d]) :
      IsRow isFirst (colonBefore isFirst ++ text) [256 * a + b, 256 * c + d] true

/-- Eight groups. Two colons stand for one or more groups that are zero. -/
inductive IsEightGroups : Text → List Nat → Prop
  | whole {text : Text} {groups : List Nat} {bytesAtEnd : Bool}
      (row : IsRow true text groups bytesAtEnd) (eight : groups.length = 8) :
      IsEightGroups text groups
  | short {left right : Text} {before behind : List Nat} {bytesAtEnd : Bool}
      (leftRow : IsRow true left before false) (rightRow : IsRow true right behind bytesAtEnd)
      (few : before.length + behind.length ≤ 7) :
      IsEightGroups (left ++ ':' :: ':' :: right)
        (before ++ List.replicate (8 - before.length - behind.length) 0 ++ behind)

/-- The number of a network behind a percent sign, or nothing. -/
inductive IsZone : Text → Nat → Prop
  | none : IsZone [] 0
  | number {digits : Text} {number : Nat} (decimal : IsDecimal 4294967295 digits number) :
      IsZone ('%' :: digits) number

/-- A text stands for the number of a host. -/
inductive IsHost : Text → HostNumber → Prop
  | four {text : Text} {a b c d : Nat} (bytes : IsFourBytes text [a, b, c, d]) :
      IsHost text (.four a b c d)
  | eight {text zone : Text} {groups : List Nat} {network : Nat}
      (isGroups : IsEightGroups text groups) (isZone : IsZone zone network) :
      IsHost ('[' :: (text ++ (zone ++ [']']))) (.eight groups network)

theorem IsFourBytes.exists_four {text : Text} {numbers : List Nat}
    (isBytes : IsFourBytes text numbers) : ∃ a b c d, numbers = [a, b, c, d] := by
  cases isBytes with
  | mk => exact ⟨_, _, _, _, rfl⟩

namespace SocketAddress

/-! ## Runs of digits -/

section Runs

variable {rest text : Text}

/-- A run of characters of a kind ends before a text. -/
def EndsRun (p : Char → Bool) (rest : Text) : Prop :=
  ∀ c, rest.head? = some c → p c = false

theorem exists_run (p : Char → Bool) (text : Text) :
    ∃ run rest, text = run ++ rest ∧ text.takeWhile p = run ∧ (∀ c ∈ run, p c) ∧
      EndsRun p rest := by
  refine ⟨_, _, List.takeWhile_append_dropWhile.symm, rfl, fun c => List.mem_takeWhile_imp,
    fun c first => ?_⟩
  have stops := List.head?_dropWhile_not p text
  rw [first] at stops
  simpa using stops

theorem decimal?_eq_some_iff {greatest number : Nat} :
    decimal? greatest text = some (number, rest) ↔
      ∃ digits, IsDecimal greatest digits number ∧ text = digits ++ rest ∧
        EndsRun Text.isAsciiDigit rest := by
  constructor
  · intro read
    obtain ⟨digits, behind, rfl, run, all, ends⟩ := exists_run Text.isAsciiDigit text
    rw [decimal?, run] at read
    simp only [Bool.or_eq_true, List.isEmpty_iff, decide_eq_true_eq] at read
    split at read
    · nomatch read
    · next fine =>
        rw [not_or, not_lt] at fine
        cases read
        rw [List.drop_left]
        exact ⟨digits, ⟨fine.1, all, rfl, fine.2⟩, rfl, ends⟩
  · rintro ⟨digits, ⟨any, all, rfl, bound⟩, rfl, ends⟩
    rw [decimal?, Text.takeWhile_run all ends]
    simp only [Bool.or_eq_true, List.isEmpty_iff, decide_eq_true_eq]
    rw [if_neg (not_or_intro any (not_lt.mpr bound)), List.drop_left]

theorem startsWith_zero_iff {digits : Text} :
    Text.startsWith digits ['0'] ↔ digits.head? = some '0' := by
  cases digits with
  | nil => decide
  | cons c digits => simpa [Text.startsWith] using eq_comm

theorem byte?_eq_some_iff {number : Nat} :
    byte? text = some (number, rest) ↔
      ∃ digits, IsByte digits number ∧ text = digits ++ rest ∧ EndsRun Text.isAsciiDigit rest := by
  rw [byte?]
  simp only [Bool.or_eq_true, Bool.and_eq_true, decide_eq_true_eq, startsWith_zero_iff]
  constructor
  · intro read
    split at read
    · nomatch read
    · next fine =>
        obtain ⟨digits, decimal, rfl, ends⟩ := decimal?_eq_some_iff.mp read
        rw [Text.takeWhile_run decimal.all ends, not_or, not_and, not_lt] at fine
        exact ⟨digits, ⟨decimal, fine.1, fun zero => not_lt.mp (fine.2 zero)⟩, rfl, ends⟩
  · rintro ⟨digits, isByte, rfl, ends⟩
    have fine : ¬(3 < digits.length ∨ digits.head? = some '0' ∧ 1 < digits.length) := by
      rintro (long | ⟨zero, long⟩)
      · exact not_lt.mpr isByte.short long
      · exact not_lt.mpr (isByte.plain zero) long
    rw [Text.takeWhile_run isByte.all ends, if_neg fine]
    exact decimal?_eq_some_iff.mpr ⟨digits, isByte.toIsDecimal, rfl, ends⟩

theorem group?_eq_some_iff {number : Nat} :
    group? text = some (number, rest) ↔
      ∃ digits, IsGroup digits number ∧ text = digits ++ rest ∧ EndsRun Text.isHexDigit rest := by
  constructor
  · intro read
    obtain ⟨digits, behind, rfl, run, all, ends⟩ := exists_run Text.isHexDigit text
    rw [group?, run] at read
    simp only [Bool.or_eq_true, List.isEmpty_iff, decide_eq_true_eq] at read
    split at read
    · nomatch read
    · next fine =>
        rw [not_or, not_lt] at fine
        cases read
        rw [List.drop_left]
        exact ⟨digits, ⟨fine.1, all, rfl, fine.2⟩, rfl, ends⟩
  · rintro ⟨digits, ⟨any, all, rfl, short⟩, rfl, ends⟩
    rw [group?, Text.takeWhile_run all ends]
    simp only [Bool.or_eq_true, List.isEmpty_iff, decide_eq_true_eq]
    rw [if_neg (not_or_intro any (not_lt.mpr short)), List.drop_left]

end Runs

/-! ## Four bytes -/

/-- Reads a byte and the point behind it. -/
def bytePoint? (text : Text) : Option (Nat × Text) := do
  let (number, rest) ← byte? text
  let ('.' :: rest) := rest | none
  return (number, rest)

theorem fourBytes?_eq (text : Text) : fourBytes? text = do
    let (a, rest) ← bytePoint? text
    let (b, rest) ← bytePoint? rest
    let (c, rest) ← bytePoint? rest
    let (d, rest) ← byte? rest
    return ([a, b, c, d], rest) := by
  have step {β : Type} (text : Text) (next : Nat × Text → Option β) :
      bytePoint? text >>= next = byte? text >>= fun read =>
        match read.2 with
        | '.' :: rest => next (read.1, rest)
        | _ => none := by
    rw [bytePoint?, bind_assoc]
    congr 1
    funext read
    obtain ⟨number, rest⟩ := read
    dsimp only
    split <;> rfl
  simp only [step]
  rfl

theorem bytePoint?_eq_some_iff {text rest : Text} {number : Nat} :
    bytePoint? text = some (number, rest) ↔
      ∃ digits, IsByte digits number ∧ text = digits ++ '.' :: rest := by
  rw [bytePoint?, Option.bind_eq_bind, Option.bind_eq_some_iff]
  constructor
  · rintro ⟨⟨read, behind⟩, isRead, same⟩
    obtain ⟨digits, isByte, rfl, -⟩ := byte?_eq_some_iff.mp isRead
    dsimp only at same
    split at same
    · cases same
      exact ⟨digits, isByte, rfl⟩
    · nomatch same
  · rintro ⟨digits, isByte, rfl⟩
    have ends : EndsRun Text.isAsciiDigit ('.' :: rest) := by
      rintro _ ⟨⟩
      decide
    exact ⟨_, byte?_eq_some_iff.mpr ⟨digits, isByte, rfl, ends⟩, rfl⟩

theorem fourBytes?_eq_some_iff {text rest : Text} {numbers : List Nat} :
    fourBytes? text = some (numbers, rest) ↔
      ∃ front, IsFourBytes front numbers ∧ text = front ++ rest ∧
        EndsRun Text.isAsciiDigit rest := by
  rw [fourBytes?_eq]
  simp only [Option.bind_eq_bind, Option.bind_eq_some_iff, Prod.exists, bytePoint?_eq_some_iff,
    byte?_eq_some_iff]
  constructor
  · rintro ⟨i, _, ⟨a, first, rfl⟩, j, _, ⟨b, second, rfl⟩, k, _, ⟨c, third, rfl⟩, l, _,
      ⟨d, fourth, rfl, ends⟩, same⟩
    cases same
    exact ⟨_, .mk first second third fourth, by simp, ends⟩
  · rintro ⟨_, ⟨first, second, third, fourth⟩, rfl, ends⟩
    simp only [List.append_assoc, List.cons_append]
    exact ⟨_, _, ⟨_, first, rfl⟩, _, _, ⟨_, second, rfl⟩, _, _, ⟨_, third, rfl⟩, _, _,
      ⟨_, fourth, rfl, ends⟩, rfl⟩

/-! ## Rows of groups -/

/-- The text behind the colon before a group, which the first one does not have. -/
def behindColon? : (isFirst : Bool) → Text → Option Text
  | true, text => some text
  | false, ':' :: rest => some rest
  | false, _ => none

theorem behindColon?_eq_some_iff {isFirst : Bool} {text rest : Text} :
    behindColon? isFirst text = some rest ↔ text = colonBefore isFirst ++ rest := by
  unfold behindColon?
  split
  · exact Option.some_inj
  · simp [colonBefore]
  · next noColon =>
      refine iff_of_false nofun ?_
      rintro rfl
      exact noColon rest rfl

section Rows

variable {isFirst : Bool} {limit : Nat} {text inner rest : Text}

theorem groupsUpTo_succ (limit : Nat) (isFirst : Bool) (text : Text) :
    groupsUpTo (limit + 1) isFirst text =
      match if limit = 0 then none else (behindColon? isFirst text).bind fourBytes?,
        (behindColon? isFirst text).bind group? with
      | some ([a, b, c, d], rest), _ => ⟨[256 * a + b, 256 * c + d], true, rest⟩
      | _, some (group, rest) =>
        let row := groupsUpTo limit false rest
        { row with groups := group :: row.groups }
      | _, none => ⟨[], false, text⟩ := by
  rfl

theorem groupsUpTo_bytes {a b c d : Nat} (opened : behindColon? isFirst text = some inner)
    (room : limit ≠ 0) (bytes : fourBytes? inner = some ([a, b, c, d], rest)) :
    groupsUpTo (limit + 1) isFirst text = ⟨[256 * a + b, 256 * c + d], true, rest⟩ := by
  rw [groupsUpTo_succ, if_neg room, opened, Option.bind_some, bytes]

theorem groupsUpTo_group {number : Nat} (opened : behindColon? isFirst text = some inner)
    (noBytes : limit ≠ 0 → fourBytes? inner = none)
    (group : group? inner = some (number, rest)) :
    groupsUpTo (limit + 1) isFirst text =
      { groupsUpTo limit false rest with
        groups := number :: (groupsUpTo limit false rest).groups } := by
  have none : (if limit = 0 then none else fourBytes? inner) = none := by
    split
    · rfl
    · next room => exact noBytes room
  rw [groupsUpTo_succ, opened, Option.bind_some, none, Option.bind_some, group]

theorem groupsUpTo_stop (noBytes : limit ≠ 0 → (behindColon? isFirst text).bind fourBytes? = none)
    (noGroup : (behindColon? isFirst text).bind group? = none) :
    groupsUpTo (limit + 1) isFirst text = ⟨[], false, text⟩ := by
  have none : (if limit = 0 then none else (behindColon? isFirst text).bind fourBytes?) = none := by
    split
    · rfl
    · next room => exact noBytes room
  rw [groupsUpTo_succ, none, noGroup]

/-- What is read of a row of groups is a row. -/
theorem isRow_groupsUpTo (limit : Nat) (isFirst : Bool) (text : Text) :
    ∃ front, text = front ++ (groupsUpTo limit isFirst text).rest ∧
      IsRow isFirst front (groupsUpTo limit isFirst text).groups
        (groupsUpTo limit isFirst text).bytesAtEnd ∧
      (groupsUpTo limit isFirst text).groups.length ≤ limit := by
  induction limit generalizing isFirst text with
  | zero => exact ⟨[], rfl, .none, le_rfl⟩
  | succ limit induction =>
      cases opened : behindColon? isFirst text with
      | none =>
          rw [groupsUpTo_stop (fun _ => by rw [opened]; rfl) (by rw [opened]; rfl)]
          exact ⟨[], rfl, .none, Nat.zero_le _⟩
      | some inner =>
          have isText := behindColon?_eq_some_iff.mp opened
          by_cases withBytes : limit ≠ 0 ∧ ∃ read, fourBytes? inner = some read
          · obtain ⟨room, ⟨numbers, rest⟩, bytes⟩ := withBytes
            obtain ⟨front, isBytes, rfl, -⟩ := fourBytes?_eq_some_iff.mp bytes
            obtain ⟨a, b, c, d, rfl⟩ := isBytes.exists_four
            rw [groupsUpTo_bytes opened room bytes]
            exact ⟨_, isText.trans (List.append_assoc ..).symm, .bytes isBytes,
              Nat.succ_le_succ (Nat.pos_of_ne_zero room)⟩
          · have noBytes (room : limit ≠ 0) : fourBytes? inner = none :=
              Option.eq_none_iff_forall_ne_some.mpr fun read same => withBytes ⟨room, read, same⟩
            cases group : group? inner with
            | none =>
                rw [groupsUpTo_stop (by rwa [opened]) (by rwa [opened])]
                exact ⟨[], rfl, .none, Nat.zero_le _⟩
            | some read =>
                obtain ⟨number, rest⟩ := read
                obtain ⟨digits, isGroup, rfl, -⟩ := group?_eq_some_iff.mp group
                obtain ⟨behind, isRest, row, few⟩ := induction false rest
                rw [groupsUpTo_group opened noBytes group]
                refine ⟨_, ?_, .group isGroup row, Nat.succ_le_succ few⟩
                refine isText.trans ?_
                conv_lhs => rw [isRest]
                simp only [List.append_assoc]

/-- A text does not go on with a row of groups. -/
structure EndsRow (rest : Text) : Prop where
  noDigit : EndsRun Text.isHexDigit rest
  noPoint : rest.head? ≠ some '.'
  noGroup : ∀ behind, rest = ':' :: behind → EndsRun Text.isHexDigit behind

theorem EndsRow.behindColon (ends : EndsRow rest)
    (opened : behindColon? isFirst rest = some inner) : EndsRun Text.isHexDigit inner := by
  have isRest := behindColon?_eq_some_iff.mp opened
  cases isFirst with
  | true =>
      cases isRest
      exact ends.noDigit
  | false => exact ends.noGroup inner isRest

theorem isHexDigit_of_isAsciiDigit {c : Char} (isDigit : Text.isAsciiDigit c) :
    Text.isHexDigit c := by
  rw [Text.isHexDigit, isDigit]
  rfl

theorem group?_of_endsRun (ends : EndsRun Text.isHexDigit text) : group? text = none := by
  refine Option.eq_none_iff_forall_ne_some.mpr fun read same => ?_
  obtain ⟨digits, isGroup, rfl, -⟩ := group?_eq_some_iff.mp same
  obtain ⟨c, digits, rfl⟩ := List.exists_cons_of_ne_nil isGroup.any
  have isDigit := isGroup.all c List.mem_cons_self
  rw [ends c rfl] at isDigit
  nomatch isDigit

theorem exists_of_fourBytes? {read : List Nat × Text} (bytes : fourBytes? text = some read) :
    ∃ digits number rest, IsByte digits number ∧ text = digits ++ '.' :: rest := by
  obtain ⟨numbers, behind⟩ := read
  obtain ⟨front, ⟨first, -, -, -⟩, rfl, -⟩ := fourBytes?_eq_some_iff.mp bytes
  exact ⟨_, _, _, first, by rw [List.append_assoc, List.cons_append]⟩

theorem fourBytes?_of_endsRun (ends : EndsRun Text.isHexDigit text) : fourBytes? text = none := by
  refine Option.eq_none_iff_forall_ne_some.mpr fun read same => ?_
  obtain ⟨digits, number, rest, isByte, rfl⟩ := exists_of_fourBytes? same
  obtain ⟨c, digits, rfl⟩ := List.exists_cons_of_ne_nil isByte.any
  have isDigit := isHexDigit_of_isAsciiDigit (isByte.all c List.mem_cons_self)
  rw [ends c rfl] at isDigit
  nomatch isDigit

/-- A group is not the first of four bytes unless there is a point behind it. -/
theorem fourBytes?_of_group {digits : Text} {number : Nat} (isGroup : IsGroup digits number)
    (ends : EndsRun Text.isHexDigit rest) (noPoint : rest.head? ≠ some '.') :
    fourBytes? (digits ++ rest) = none := by
  refine Option.eq_none_iff_forall_ne_some.mpr fun read same => ?_
  obtain ⟨others, byte, behind, isByte, alike⟩ := exists_of_fourBytes? same
  have point : EndsRun Text.isHexDigit ('.' :: behind) := by
    rintro _ ⟨⟩
    decide
  have byteDigits : ∀ c ∈ others, Text.isHexDigit c :=
    fun c member => isHexDigit_of_isAsciiDigit (isByte.all c member)
  have run := Text.takeWhile_run isGroup.all ends
  rw [alike, Text.takeWhile_run byteDigits point] at run
  subst run
  exact noPoint (congrArg List.head? (List.append_cancel_left alike))

theorem endsRun_of_isRow {behind : Text} {groups : List Nat} {bytesAtEnd : Bool}
    (row : IsRow false behind groups bytesAtEnd) (ends : EndsRow rest) :
    EndsRun Text.isHexDigit (behind ++ rest) ∧ (behind ++ rest).head? ≠ some '.' := by
  have colon (more : Text) : EndsRun Text.isHexDigit (':' :: more) ∧
      (':' :: more).head? ≠ some '.' := by
    constructor
    · rintro _ ⟨⟩
      decide
    · rintro ⟨⟩
  cases row with
  | none => exact ⟨ends.noDigit, ends.noPoint⟩
  | group => exact colon _
  | bytes => exact colon _

/-- A row of groups is read up to its end. -/
theorem groupsUpTo_of_isRow {front : Text} {groups : List Nat} {bytesAtEnd : Bool}
    (row : IsRow isFirst front groups bytesAtEnd) (few : groups.length ≤ limit)
    (ends : EndsRow rest) :
    groupsUpTo limit isFirst (front ++ rest) = ⟨groups, bytesAtEnd, rest⟩ := by
  induction row generalizing limit with
  | @none isFirst =>
      cases limit with
      | zero => rfl
      | succ limit =>
          rw [List.nil_append]
          cases opened : behindColon? isFirst rest with
          | none => exact groupsUpTo_stop (fun _ => by rw [opened]; rfl) (by rw [opened]; rfl)
          | some inner =>
              have noDigit := ends.behindColon opened
              refine groupsUpTo_stop (fun _ => ?_) ?_
              · rw [opened]
                exact fourBytes?_of_endsRun noDigit
              · rw [opened]
                exact group?_of_endsRun noDigit
  | @group isFirst bytesAtEnd digits behind number groups isGroup row induction =>
      obtain ⟨limit, rfl⟩ := Nat.exists_eq_succ_of_ne_zero (Nat.ne_zero_of_lt few)
      obtain ⟨noDigit, noPoint⟩ := endsRun_of_isRow row ends
      have opened : behindColon? isFirst (colonBefore isFirst ++ (digits ++ behind) ++ rest) =
          some (digits ++ (behind ++ rest)) := by
        rw [behindColon?_eq_some_iff]
        simp only [List.append_assoc]
      rw [groupsUpTo_group opened (fun _ => fourBytes?_of_group isGroup noDigit noPoint)
        (group?_eq_some_iff.mpr ⟨digits, isGroup, rfl, noDigit⟩),
        induction (Nat.le_of_succ_le_succ few)]
  | @bytes isFirst text a b c d four =>
      obtain ⟨limit, rfl⟩ := Nat.exists_eq_succ_of_ne_zero (Nat.ne_zero_of_lt few)
      have opened : behindColon? isFirst (colonBefore isFirst ++ text ++ rest) =
          some (text ++ rest) := by
        rw [behindColon?_eq_some_iff, List.append_assoc]
      have noDigit : EndsRun Text.isAsciiDigit rest := fun c first => by
        have noHex := ends.noDigit c first
        rw [Text.isHexDigit] at noHex
        simp_all
      refine groupsUpTo_bytes opened ?_ (fourBytes?_eq_some_iff.mpr ⟨text, four, rfl, noDigit⟩)
      exact Nat.ne_zero_of_lt (Nat.le_of_succ_le_succ few)

theorem eightGroups?_of_isEightGroups {front : Text} {groups : List Nat}
    (isGroups : IsEightGroups front groups) (ends : EndsRow rest) :
    eightGroups? (front ++ rest) = some (groups, rest) := by
  cases isGroups with
  | whole row eight =>
      rw [eightGroups?, groupsUpTo_of_isRow row eight.le ends]
      exact if_pos eight
  | @short left right before behind bytesAtEnd leftRow rightRow few =>
      have between : EndsRow (':' :: ':' :: (right ++ rest)) := by
        refine ⟨?_, nofun, ?_⟩
        · rintro _ ⟨⟩
          decide
        · rintro _ ⟨⟩ _ ⟨⟩
          decide
      have whole : left ++ ':' :: ':' :: right ++ rest = left ++ ':' :: ':' :: (right ++ rest) := by
        simp only [List.append_assoc, List.cons_append]
      have tail : groupsUpTo (7 - before.length) true (right ++ rest) =
          ⟨behind, bytesAtEnd, rest⟩ :=
        groupsUpTo_of_isRow rightRow (by omega) ends
      rw [whole, eightGroups?, groupsUpTo_of_isRow leftRow (by omega) between]
      dsimp only
      rw [if_neg (by omega), if_neg Bool.false_ne_true]
      split
      · next more same =>
          cases same
          rw [tail]
      · next noColons => exact (noColons _ rfl).elim

theorem exists_of_eightGroups? {groups : List Nat}
    (read : eightGroups? text = some (groups, rest)) :
    ∃ front, IsEightGroups front groups ∧ text = front ++ rest := by
  rw [eightGroups?] at read
  obtain ⟨left, isText, leftRow, atMost⟩ := isRow_groupsUpTo 8 true text
  generalize groupsUpTo 8 true text = head at read isText leftRow atMost
  dsimp only at read
  split at read
  · next eight =>
      cases read
      exact ⟨left, .whole leftRow eight, isText⟩
  next less =>
  split at read
  · nomatch read
  next noBytes =>
  rw [Bool.not_eq_true] at noBytes
  rw [noBytes] at leftRow
  split at read
  · next behind isRest =>
      obtain ⟨right, isBehind, rightRow, few⟩ :=
        isRow_groupsUpTo (7 - head.groups.length) true behind
      generalize groupsUpTo (7 - head.groups.length) true behind = tail
        at read isBehind rightRow few
      cases read
      refine ⟨_, .short leftRow rightRow (by omega), ?_⟩
      rw [isText, isRest, isBehind]
      simp only [List.append_assoc, List.cons_append]
  · nomatch read

end Rows

/-! ## Addresses -/

section Addresses

variable {text : Text}

theorem port?_eq_some_iff {port : Nat} :
    port? text = some port ↔ ∃ digits, IsDecimal 65535 digits port ∧ text = ':' :: digits := by
  constructor
  · intro read
    unfold port? at read
    split at read
    · next rest =>
        split at read
        · next number isRead =>
            cases read
            obtain ⟨digits, decimal, rfl, -⟩ := decimal?_eq_some_iff.mp isRead
            exact ⟨digits, decimal, by rw [List.append_nil]⟩
        · nomatch read
    · nomatch read
  · rintro ⟨digits, decimal, rfl⟩
    have read : decimal? 65535 digits = some (port, []) :=
      decimal?_eq_some_iff.mpr ⟨digits, decimal, (List.append_nil digits).symm, nofun⟩
    rw [port?, read]

/-- Reads what may stand before the closing bracket, and the bracket. -/
def zoneBracket? (text : Text) : Option (Nat × Text) := do
  let (network, rest) ← zone? text
  let (']' :: rest) := rest | none
  return (network, rest)

theorem zoneBracket?_eq_some_iff {rest : Text} {network : Nat} :
    zoneBracket? text = some (network, rest) ↔
      ∃ zone, IsZone zone network ∧ text = zone ++ ']' :: rest := by
  rw [zoneBracket?, Option.bind_eq_bind, Option.bind_eq_some_iff]
  constructor
  · rintro ⟨⟨read, behind⟩, isRead, same⟩
    dsimp only at same
    split at same
    · cases same
      unfold zone? at isRead
      split at isRead
      · obtain ⟨digits, decimal, rfl, -⟩ := decimal?_eq_some_iff.mp isRead
        exact ⟨_, .number decimal, rfl⟩
      · cases isRead
        exact ⟨[], .none, rfl⟩
    · cases same
  · rintro ⟨zone, isZone, rfl⟩
    refine ⟨(network, ']' :: rest), ?_, rfl⟩
    cases isZone with
    | none => rfl
    | number decimal =>
        refine decimal?_eq_some_iff.mpr ⟨_, decimal, rfl, ?_⟩
        rintro _ ⟨⟩
        decide

theorem endsRow_of_isZone {zone rest : Text} {network : Nat} (isZone : IsZone zone network) :
    EndsRow (zone ++ ']' :: rest) := by
  cases isZone with
  | none => exact ⟨by rintro _ ⟨⟩; decide, nofun, nofun⟩
  | number => exact ⟨by rintro _ ⟨⟩; decide, nofun, nofun⟩

theorem parse?_bracket (text : Text) : parse? ('[' :: text) = do
    let (groups, rest) ← eightGroups? text
    let (network, rest) ← zoneBracket? rest
    return { host := .eight groups network, port := ← port? rest } := by
  have step {β : Type} (text : Text) (next : Nat × Text → Option β) :
      zoneBracket? text >>= next = zone? text >>= fun read =>
        match read.2 with
        | ']' :: rest => next (read.1, rest)
        | _ => none := by
    rw [zoneBracket?, bind_assoc]
    congr 1
    funext read
    obtain ⟨network, rest⟩ := read
    dsimp only
    split <;> rfl
  simp only [step]
  rfl

theorem parse?_plain (plain : text.head? ≠ some '[') : parse? text = (do
    let ([a, b, c, d], rest) ← fourBytes? text | none
    return { host := .four a b c d, port := ← port? rest }) := by
  unfold parse?
  split
  · exact (plain rfl).elim
  · rfl

/-- An address is a host, a colon and the number of a port. -/
theorem exists_of_parse? {address : SocketAddress} (read : parse? text = some address) :
    ∃ host digits, IsHost host address.host ∧ IsDecimal 65535 digits address.port ∧
      text = host ++ ':' :: digits := by
  by_cases bracket : text.head? = some '['
  · obtain ⟨rest, rfl⟩ := List.head?_eq_some_iff.mp bracket
    rw [parse?_bracket] at read
    obtain ⟨⟨groups, behind⟩, isGroups, read⟩ := Option.bind_eq_some_iff.mp read
    obtain ⟨⟨network, last⟩, isZone, read⟩ := Option.bind_eq_some_iff.mp read
    obtain ⟨port, isPort, same⟩ := Option.bind_eq_some_iff.mp read
    cases same
    obtain ⟨front, eight, rfl⟩ := exists_of_eightGroups? isGroups
    obtain ⟨zone, network, rfl⟩ := zoneBracket?_eq_some_iff.mp isZone
    obtain ⟨digits, decimal, rfl⟩ := port?_eq_some_iff.mp isPort
    exact ⟨_, digits, .eight eight network, decimal, by simp⟩
  · rw [parse?_plain bracket] at read
    obtain ⟨⟨numbers, behind⟩, isBytes, read⟩ := Option.bind_eq_some_iff.mp read
    split at read
    · next same =>
        cases same
        obtain ⟨port, isPort, same⟩ := Option.bind_eq_some_iff.mp read
        cases same
        obtain ⟨front, four, rfl, -⟩ := fourBytes?_eq_some_iff.mp isBytes
        obtain ⟨digits, decimal, rfl⟩ := port?_eq_some_iff.mp isPort
        exact ⟨_, digits, .four four, decimal, rfl⟩
    · nomatch read

/-- The address with a host and a port is read as such. -/
theorem parse?_of_isHost {host digits : Text} {number : HostNumber} {port : Nat}
    (isHost : IsHost host number) (decimal : IsDecimal 65535 digits port) :
    parse? (host ++ ':' :: digits) = some ⟨number, port⟩ := by
  have isPort := port?_eq_some_iff.mpr ⟨digits, decimal, rfl⟩
  cases isHost with
  | @four text a b c d bytes =>
      have ends : EndsRun Text.isAsciiDigit (':' :: digits) := by
        rintro _ ⟨⟩
        decide
      have read := fourBytes?_eq_some_iff.mpr ⟨host, bytes, rfl, ends⟩
      have plain : (host ++ ':' :: digits).head? ≠ some '[' := by
        obtain ⟨first, byte, rest, isByte, same⟩ := exists_of_fourBytes? read
        obtain ⟨c, more, rfl⟩ := List.exists_cons_of_ne_nil isByte.any
        rw [same]
        rintro ⟨⟩
        nomatch isByte.all '[' List.mem_cons_self
      rw [parse?_plain plain, read, Option.bind_eq_bind, Option.bind_some]
      dsimp only
      rw [isPort]
      rfl
  | @eight text zone groups network isGroups isZone =>
      have whole : '[' :: (text ++ (zone ++ [']'])) ++ ':' :: digits =
          '[' :: (text ++ (zone ++ ']' :: ':' :: digits)) := by
        simp
      rw [whole, parse?_bracket,
        eightGroups?_of_isEightGroups isGroups (endsRow_of_isZone isZone), Option.bind_eq_bind,
        Option.bind_some]
      dsimp only
      rw [zoneBracket?_eq_some_iff.mpr ⟨zone, isZone, rfl⟩, Option.bind_eq_bind, Option.bind_some]
      dsimp only
      rw [isPort]
      rfl

theorem rtakeWhile_behind {c : Char} {last : Text} (absent : c ∉ last) (text : Text) :
    (text ++ c :: last).rtakeWhile (· != c) = last := by
  have ends : EndsRun (· != c) (c :: text.reverse) := by
    rintro _ ⟨⟩
    exact bne_self_eq_false c
  have others : ∀ d ∈ last.reverse, d != c := fun d member => by
    rw [bne_iff_ne]
    rintro rfl
    exact absent (List.mem_reverse.mp member)
  rw [List.rtakeWhile, List.reverse_append, List.reverse_cons, List.append_assoc,
    List.singleton_append, Text.takeWhile_run others ends, List.reverse_reverse]

/-- A host with the number of a port behind it is an address if and only if it stands for the number
of a host and the port is not too great. -/
theorem parse?_host_port_iff {host : Text} {port : Nat} {address : SocketAddress} :
    parse? (host ++ ':' :: Text.ofNat port) = some address ↔
      IsHost host address.host ∧ address.port = port ∧ port ≤ 65535 := by
  have noColon {digits : Text} (all : ∀ c ∈ digits, Text.isAsciiDigit c) : ':' ∉ digits :=
    fun colon => nomatch all ':' colon
  have all (c : Char) (member : c ∈ Text.ofNat port) : Text.isAsciiDigit c :=
    Text.isAsciiDigit_of_mem_ofNat member
  constructor
  · intro read
    obtain ⟨other, digits, isHost, decimal, same⟩ := exists_of_parse? read
    have ports := congrArg (List.rtakeWhile (· != ':')) same
    rw [rtakeWhile_behind (noColon all), rtakeWhile_behind (noColon decimal.all)] at ports
    subst ports
    obtain rfl := List.append_cancel_right same
    have value : port = address.port := (Text.decimalValue_ofNat port).symm.trans decimal.value
    exact ⟨isHost, value.symm, value ▸ decimal.bound⟩
  · rintro ⟨isHost, rfl, small⟩
    exact parse?_of_isHost isHost
      ⟨Text.ofNat_ne_nil _, all, Text.decimalValue_ofNat _, small⟩

end Addresses

end SocketAddress

end DocSite.Web
