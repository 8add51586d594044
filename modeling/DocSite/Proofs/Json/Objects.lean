import DocSite.Json.Skip
import DocSite.Proofs.Except
import DocSite.Proofs.Json.Reading

/-!
# Objects are read as they were written

The parts of a written object are read one after the other: each name is found behind the brace or
the comma before it, and its value behind the colon. How deep a value nests is counted, since a
reader may not follow it to any depth.
-/

namespace DocSite.Json

/-! ## Nesting -/

mutual

/-- How deep lists and objects nest in a value. -/
def nesting : Json → Nat
  | null => 0
  | string _ => 0
  | number _ => 0
  | list items => itemsNesting items + 1
  | object members => membersNesting members + 1

/-- How deep lists and objects nest in some items. -/
def itemsNesting : List Json → Nat
  | [] => 0
  | item :: items => max item.nesting (itemsNesting items)

/-- How deep lists and objects nest in the values of some members. -/
def membersNesting : List (Text × Json) → Nat
  | [] => 0
  | (_, value) :: members => max value.nesting (membersNesting members)

end

theorem membersNesting_append (left right : List (Text × Json)) :
    membersNesting (left ++ right) = max (membersNesting left) (membersNesting right) := by
  induction left with
  | nil => simp [membersNesting]
  | cons member left induction =>
      simp only [List.cons_append, membersNesting, induction, Nat.max_assoc]

/-! ## Blanks -/

theorem skipBlank_cons {c : Char}
    (visible : (c == ' ' || c == '\n' || c == '\t' || c == '\r') = false) (place : Place)
    (rest : Text) : (Cursor.mk place (c :: rest)).skipBlank = ⟨place, c :: rest⟩ := by
  simp only [Cursor.skipBlank, Cursor.skipWhile, List.takeWhile_cons, List.dropWhile_cons, visible]
  rfl

/-! ## Values -/

/-- A reader gets a value from a text, whatever follows the text, and stops behind it. -/
def Reads {α : Type} (read : Cursor → Except Failure (α × Cursor)) (written : Text)
    (value : α) : Prop :=
  ∀ place rest, ∃ after, read ⟨place, written ++ rest⟩ = .ok (value, ⟨after, rest⟩)

theorem reads_scanString (text : Text) :
    Reads scanString (text.flatMap escapeChar ++ ['\x22']) text := by
  intro place rest
  rw [List.append_assoc]
  exact scanStringFrom_quoted text place rest

theorem reads_readText (text : Text) : Reads readText (quote text) text := by
  intro place rest
  obtain ⟨after, read⟩ := reads_scanString text (place.pass '\x22') rest
  refine ⟨after, ?_⟩
  rw [← read, quote, List.cons_append, List.cons_append, readText, skipBlank_cons (by decide)]
  rfl

/-- A value whose first character is neither blank nor that of null is none that is null. -/
theorem Reads.readOptional {α : Type} {read : Cursor → Except Failure (α × Cursor)}
    {first : Char} {written : Text} {value : α} (reads : Reads read (first :: written) value)
    (visible : (first == ' ' || first == '\n' || first == '\t' || first == '\r') = false)
    (other : first ≠ 'n') : Reads (readOptional read) (first :: written) (some value) := by
  intro place rest
  obtain ⟨after, found⟩ := reads place rest
  refine ⟨after, ?_⟩
  rw [List.cons_append] at found ⊢
  rw [Json.readOptional, skipBlank_cons visible]
  split
  · rename_i equality
    exact (other (List.cons.inj equality).1).elim
  · rw [found]
    rfl

/-! ## Members -/

/-- What is written of an object from a member on, which may be its first one. -/
def membersText (isFirst : Bool) (members : List (Text × Json)) (rest : Text) : Text :=
  if isFirst then compactMembers members ++ '\x7d' :: rest else behindMember members rest

theorem compact_object_append (members : List (Text × Json)) (rest : Text) :
    (object members).compact ++ rest = '\x7b' :: membersText true members rest := by
  simp [compact, membersText]

theorem length_compactMembers_cons (member : Text × Json) (members : List (Text × Json)) :
    member.2.compact.length + (compactMembers members).length + 3 ≤
      (compactMembers (member :: members)).length := by
  cases members with
  | nil =>
      simp only [compactMembers, quote, List.length_append, List.length_cons, List.length_nil]
      omega
  | cons next members =>
      simp only [compactMembers, quote, List.length_append, List.length_cons, List.length_nil]
      omega

theorem length_compactMembers_append (left right : List (Text × Json)) :
    (compactMembers right).length ≤ (compactMembers (left ++ right)).length := by
  induction left with
  | nil => exact Nat.le_refl _
  | cons member left induction =>
      have longer := length_compactMembers_cons member (left ++ right)
      rw [List.cons_append]
      omega

theorem two_le_length_compact_string (text : Text) : 2 ≤ (string text).compact.length := by
  simp only [compact, quote, List.length_append, List.length_cons, List.length_nil]
  omega

theorem length_compact_object (members : List (Text × Json)) :
    (object members).compact.length = (compactMembers members).length + 2 := by
  simp only [compact, List.length_append, List.length_cons, List.length_nil]

theorem nextMember_end (isFirst : Bool) (place : Place) (rest : Text) :
    ∃ after, nextMember isFirst ⟨place, membersText isFirst [] rest⟩ =
      .ok (false, ⟨after, rest⟩) := by
  cases isFirst <;> exact ⟨_, rfl⟩

/-- The name of a member and the value behind it are found. -/
theorem reads_member (isFirst : Bool) (name : Text) (value : Json)
    (members : List (Text × Json)) (place : Place) (rest : Text) :
    ∃ opened named after,
      nextMember isFirst ⟨place, membersText isFirst ((name, value) :: members) rest⟩ =
        .ok (true, opened) ∧
      scanString opened = .ok (name, named) ∧
      skipColon named = .ok ⟨after, value.compact ++ membersText false members rest⟩ := by
  have written : compactMembers ((name, value) :: members) ++ '\x7d' :: rest =
      '\x22' :: (name.flatMap escapeChar ++ ['\x22'] ++
        ':' :: (value.compact ++ membersText false members rest)) := by
    rw [compactMembers_cons, quote, List.cons_append, List.cons_append]
    rfl
  have opens : ∃ opened, nextMember isFirst
      ⟨place, membersText isFirst ((name, value) :: members) rest⟩ = .ok (true, ⟨opened,
        name.flatMap escapeChar ++ ['\x22'] ++
          ':' :: (value.compact ++ membersText false members rest)⟩) := by
    cases isFirst with
    | true =>
        refine ⟨place.pass '\x22', ?_⟩
        rw [membersText, if_pos rfl, written, nextMember, skipBlank_cons (by decide)]
        rfl
    | false =>
        refine ⟨(place.pass ',').pass '\x22', ?_⟩
        rw [membersText, if_neg (by decide), behindMember, written, nextMember,
          skipBlank_cons (by decide)]
        simp only [Cursor.next]
        rfl
  obtain ⟨opened, opens⟩ := opens
  obtain ⟨named, named_eq⟩ := reads_scanString name opened
    (':' :: (value.compact ++ membersText false members rest))
  exact ⟨_, _, named.pass ':', opens, named_eq, rfl⟩

/-! ## Failures -/

@[simp] theorem failHere_ne_ok {α : Type} {cursor : Cursor} {fault : Fault} {found : α} :
    cursor.failHere fault ≠ .ok found :=
  nofun

@[simp] theorem failNext_ne_ok {α : Type} {cursor : Cursor} {fault : Fault} {found : α} :
    cursor.failNext fault ≠ .ok found :=
  nofun

@[simp] theorem wrongKind_ne_ok {α : Type} {expected : Text} {cursor : Cursor} {found : α} :
    wrongKind expected cursor ≠ .ok found := by
  intro read
  obtain ⟨_, -, failed⟩ := Except.bind_eq_ok_iff.mp read
  nomatch failed

/-- A value that may be null has been read by the reader for the others, unless it is null. -/
theorem readOptional_eq_some {α : Type} {read : Cursor → Except Failure (α × Cursor)}
    {cursor after : Cursor} {value : α}
    (found : readOptional read cursor = .ok (some value, after)) :
    ∃ start, read start = .ok (value, after) := by
  simp only [readOptional] at found
  split at found
  · obtain ⟨_, -, none⟩ := Except.bind_eq_ok_iff.mp found
    nomatch none
  · obtain ⟨⟨_, _⟩, read, some⟩ := Except.bind_eq_ok_iff.mp found
    cases some
    exact ⟨_, read⟩

end DocSite.Json
