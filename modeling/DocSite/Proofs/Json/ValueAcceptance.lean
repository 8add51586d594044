import Mathlib.Data.List.DropRight
import DocSite.Proofs.Json.NumberAcceptance

/-!
# Which values the reader of JSON passes

A value of which nothing is kept is passed if and only if the text begins with one. This is shown by
induction on the fuel: a value needs two steps for each of its characters at most.
-/

namespace DocSite.Json

variable {cursor : Cursor} {rest : Text}

/-! ## Blanks -/

theorem rest_skipBlank (cursor : Cursor) : cursor.skipBlank.rest = unblank cursor.rest :=
  rfl

@[simp] theorem unblank_unblank (text : Text) : unblank (unblank text) = unblank text :=
  List.dropWhile_idempotent isBlank text

/-- What closes a list or an object, or parts one item or member from the next. -/
def isCloser (c : Char) : Bool :=
  c == ',' || c == ']' || c == '\x7d'

/-- Behind a value comes what closes it off. -/
theorem follows_of_unblank {c : Char} {text more : Text} (starts : unblank text = c :: more)
    (closes : isCloser c) : Follows text := by
  rintro first head
  cases text with
  | nil => nomatch head
  | cons other text =>
      obtain rfl := Option.some.inj head
      cases blank : isBlank other with
      | true =>
          simp only [isBlank, Bool.or_eq_true, beq_iff_eq] at blank
          rcases blank with ((rfl | rfl) | rfl) | rfl <;> exact ⟨rfl, nofun, nofun, nofun⟩
      | false =>
          rw [unblank, List.dropWhile_cons_of_neg (by simp [blank])] at starts
          obtain rfl := (List.cons.inj starts).1
          simp only [isCloser, Bool.or_eq_true, beq_iff_eq] at closes
          rcases closes with (rfl | rfl) | rfl <;> exact ⟨rfl, nofun, nofun, nofun⟩

theorem passes_skipColon_iff :
    Passes (skipColon cursor) rest ↔ unblank cursor.rest = ':' :: rest := by
  rw [← rest_skipBlank, skipColon]
  split
  · next ends => simp [ends]
  · next opened => simp [opened, rest_next]
  · next noColon => exact iff_of_false (not_passes_failNext _) (noColon rest)

/-! ## How a value begins -/

theorem IsUnsigned.exists_digit {written : Text} (isUnsigned : IsUnsigned written) :
    ∃ c more, written = c :: more ∧ Text.isAsciiDigit c := by
  obtain ⟨whole, fraction, exponent, rfl, isWhole, -, -⟩ := isUnsigned
  cases isWhole with
  | zero => exact ⟨'0', _, rfl, rfl⟩
  | digits _ isDigits => exact ⟨_, _, rfl, isDigits.2 _ List.mem_cons_self⟩

/-- The first character of a value tells its kind. -/
theorem begins_cons_iff {c : Char} {text : Text} {tree : Tree} :
    Begins (c :: text) tree rest ↔
      (c = 'n' ∧ text = "ull".toList ++ rest ∧ tree = .null) ∨
      (c = 't' ∧ text = "rue".toList ++ rest ∧ tree = .boolean true) ∨
      (c = 'f' ∧ text = "alse".toList ++ rest ∧ tree = .boolean false) ∨
      (c = '-' ∧ (∃ written, IsUnsigned written ∧ text = written ++ rest) ∧ tree = .number) ∨
      (Text.isAsciiDigit c ∧ (∃ written, IsUnsigned written ∧ c :: text = written ++ rest) ∧
        tree = .number) ∨
      (c = '\x22' ∧ ∃ marks, BeginsString text marks rest ∧ tree = .string marks) ∨
      (c = '[' ∧ ∃ items, BeginsItems true text items rest ∧ tree = .list items) ∨
      (c = '\x7b' ∧ ∃ members, BeginsMembers true text members rest ∧ tree = .object members) := by
  constructor
  · intro begins
    generalize same : c :: text = whole at begins
    cases begins with
    | null => simpa using same
    | true => simpa using same
    | false => simpa using same
    | number isUnsigned =>
        obtain ⟨first, more, rfl, isDigit⟩ := isUnsigned.exists_digit
        have isDigit : Text.isAsciiDigit c := (List.cons.inj same).1 ▸ isDigit
        exact .inr (.inr (.inr (.inr (.inl ⟨isDigit, ⟨_, isUnsigned, rfl⟩, rfl⟩))))
    | negative isUnsigned =>
        obtain ⟨rfl, rfl⟩ := List.cons.inj same
        exact .inr (.inr (.inr (.inl ⟨rfl, ⟨_, isUnsigned, rfl⟩, rfl⟩)))
    | string isString =>
        obtain ⟨rfl, rfl⟩ := List.cons.inj same
        exact .inr (.inr (.inr (.inr (.inr (.inl ⟨rfl, _, isString, rfl⟩)))))
    | list areItems =>
        obtain ⟨rfl, rfl⟩ := List.cons.inj same
        exact .inr (.inr (.inr (.inr (.inr (.inr (.inl ⟨rfl, _, areItems, rfl⟩))))))
    | object areMembers =>
        obtain ⟨rfl, rfl⟩ := List.cons.inj same
        exact .inr (.inr (.inr (.inr (.inr (.inr (.inr ⟨rfl, _, areMembers, rfl⟩))))))
  · rintro (⟨rfl, rfl, rfl⟩ | ⟨rfl, rfl, rfl⟩ | ⟨rfl, rfl, rfl⟩ |
      ⟨rfl, ⟨written, isUnsigned, rfl⟩, rfl⟩ | ⟨-, ⟨written, isUnsigned, same⟩, rfl⟩ |
      ⟨rfl, marks, isString, rfl⟩ | ⟨rfl, items, areItems, rfl⟩ | ⟨rfl, members, areMembers, rfl⟩)
    · exact .null
    · exact .true
    · exact .false
    · exact .negative isUnsigned
    · rw [same]
      exact .number isUnsigned
    · exact .string isString
    · exact .list areItems
    · exact .object areMembers

theorem exists_begins_cons_iff {c : Char} {text : Text} :
    (∃ tree, Begins (c :: text) tree rest) ↔
      (c = 'n' ∧ text = "ull".toList ++ rest) ∨ (c = 't' ∧ text = "rue".toList ++ rest) ∨
      (c = 'f' ∧ text = "alse".toList ++ rest) ∨
      (c = '-' ∧ ∃ written, IsUnsigned written ∧ text = written ++ rest) ∨
      (Text.isAsciiDigit c ∧ ∃ written, IsUnsigned written ∧ c :: text = written ++ rest) ∨
      (c = '\x22' ∧ ∃ marks, BeginsString text marks rest) ∨
      (c = '[' ∧ ∃ items, BeginsItems true text items rest) ∨
      (c = '\x7b' ∧ ∃ members, BeginsMembers true text members rest) := by
  simp only [begins_cons_iff, exists_or, exists_and_left]
  simp

theorem not_begins_nil {tree : Tree} : ¬Begins [] tree rest := by
  intro begins
  nomatch begins.length_lt

/-! ## How items and members follow each other -/

theorem beginsItems_iff {isFirst : Bool} {text : Text} {items : List Tree} :
    BeginsItems isFirst text items rest ↔ (unblank text = ']' :: rest ∧ items = []) ∨
      ∃ start item behind others, Separated isFirst text start ∧ Begins start item behind ∧
        BeginsItems false behind others rest ∧ items = item :: others := by
  constructor
  · intro areItems
    cases areItems with
    | done closed => exact .inl ⟨closed, rfl⟩
    | item separated first more => exact .inr ⟨_, _, _, _, separated, first, more, rfl⟩
  · rintro (⟨closed, rfl⟩ | ⟨start, item, behind, others, separated, first, more, rfl⟩)
    · exact .done closed
    · exact .item separated first more

theorem beginsItems_true_iff {text : Text} {items : List Tree} :
    BeginsItems true text items rest ↔ (unblank text = ']' :: rest ∧ items = []) ∨
      ∃ item behind others, Begins (unblank text) item behind ∧
        BeginsItems false behind others rest ∧ items = item :: others := by
  rw [beginsItems_iff]
  refine or_congr_right ⟨?_, ?_⟩
  · rintro ⟨_, item, behind, others, separated, known⟩
    obtain rfl : unblank text = _ := separated
    exact ⟨item, behind, others, known⟩
  · rintro ⟨item, behind, others, known⟩
    exact ⟨unblank text, item, behind, others, rfl, known⟩

theorem beginsItems_false_iff {text : Text} {items : List Tree} :
    BeginsItems false text items rest ↔ (unblank text = ']' :: rest ∧ items = []) ∨
      ∃ more, unblank text = ',' :: more ∧ items ≠ [] ∧ BeginsItems true more items rest := by
  constructor
  · intro areItems
    cases areItems with
    | done closed => exact .inl ⟨closed, rfl⟩
    | item separated first others =>
        obtain ⟨more, comma, rfl⟩ := separated
        exact .inr ⟨more, comma, List.cons_ne_nil _ _, .item rfl first others⟩
  · rintro (⟨closed, rfl⟩ | ⟨more, comma, some, areItems⟩)
    · exact .done closed
    · cases areItems with
      | done => exact (some rfl).elim
      | item separated first others => exact .item ⟨more, comma, separated⟩ first others

theorem beginsMembers_iff {isFirst : Bool} {text : Text} {members : List (List Mark × Tree)} :
    BeginsMembers isFirst text members rest ↔ (unblank text = '\x7d' :: rest ∧ members = []) ∨
      ∃ start name named value tree behind others, Separated isFirst text ('\x22' :: start) ∧
        BeginsString start name named ∧ unblank named = ':' :: value ∧
        Begins (unblank value) tree behind ∧ BeginsMembers false behind others rest ∧
        members = (name, tree) :: others := by
  constructor
  · intro areMembers
    cases areMembers with
    | done closed => exact .inl ⟨closed, rfl⟩
    | member separated isName colon first more =>
        exact .inr ⟨_, _, _, _, _, _, _, separated, isName, colon, first, more, rfl⟩
  · rintro (⟨closed, rfl⟩ |
      ⟨start, name, named, value, tree, behind, others, opened, isName, colon, first, more, rfl⟩)
    · exact .done closed
    · exact .member opened isName colon first more

theorem beginsMembers_true_iff {text : Text} {members : List (List Mark × Tree)} :
    BeginsMembers true text members rest ↔ (unblank text = '\x7d' :: rest ∧ members = []) ∨
      ∃ start name named value tree behind others, unblank text = '\x22' :: start ∧
        BeginsString start name named ∧ unblank named = ':' :: value ∧
        Begins (unblank value) tree behind ∧ BeginsMembers false behind others rest ∧
        members = (name, tree) :: others :=
  beginsMembers_iff

theorem beginsMembers_false_iff {text : Text} {members : List (List Mark × Tree)} :
    BeginsMembers false text members rest ↔ (unblank text = '\x7d' :: rest ∧ members = []) ∨
      ∃ more, unblank text = ',' :: more ∧ members ≠ [] ∧ BeginsMembers true more members rest := by
  constructor
  · intro areMembers
    cases areMembers with
    | done closed => exact .inl ⟨closed, rfl⟩
    | member separated isName colon first others =>
        obtain ⟨more, comma, opened⟩ := separated
        exact .inr ⟨more, comma, List.cons_ne_nil _ _, .member opened isName colon first others⟩
  · rintro (⟨closed, rfl⟩ | ⟨more, comma, some, areMembers⟩)
    · exact .done closed
    · cases areMembers with
      | done => exact (some rfl).elim
      | member separated isName colon first others =>
          exact .member ⟨more, comma, separated⟩ isName colon first others

theorem not_begins_closer {c : Char} {text : Text} {tree : Tree} (closes : isCloser c) :
    ¬Begins (c :: text) tree rest := by
  rw [begins_cons_iff]
  simp only [isCloser, Bool.or_eq_true, beq_iff_eq] at closes
  rcases closes with (rfl | rfl) | rfl <;> simp [Text.isAsciiDigit]

theorem follows_of_beginsItems {behind : Text} {others : List Tree}
    (areItems : BeginsItems false behind others rest) : Follows behind := by
  obtain ⟨closed, -⟩ | ⟨more, comma, -⟩ := beginsItems_false_iff.mp areItems
  · exact follows_of_unblank closed rfl
  · exact follows_of_unblank comma rfl

theorem follows_of_beginsMembers {behind : Text} {others : List (List Mark × Tree)}
    (areMembers : BeginsMembers false behind others rest) : Follows behind := by
  obtain ⟨closed, -⟩ | ⟨more, comma, -⟩ := beginsMembers_false_iff.mp areMembers
  · exact follows_of_unblank closed rfl
  · exact follows_of_unblank comma rfl

/-! ## Values of which nothing is kept -/

/-- With this fuel, short enough values are passed over. -/
def SkipsValues (fuel : Nat) : Prop :=
  ∀ {cursor : Cursor} {rest : Text}, 2 * cursor.rest.length < fuel → Follows rest →
    (Passes (skipValue fuel cursor) rest ↔ ∃ tree, Begins (unblank cursor.rest) tree rest)

/-- With this fuel, the items of short enough lists are passed over. -/
def SkipsItems (fuel : Nat) : Prop :=
  ∀ {cursor : Cursor} {rest : Text}, 2 * cursor.rest.length + 1 < fuel →
    (Passes (skipItems fuel cursor) rest ↔
      ∃ items, items ≠ [] ∧ BeginsItems true cursor.rest items rest)

/-- With this fuel, the members of short enough objects are passed over. -/
def SkipsMembers (fuel : Nat) : Prop :=
  ∀ {cursor : Cursor} {rest : Text}, 2 * cursor.rest.length + 1 < fuel →
    (Passes (skipMembers fuel cursor) rest ↔
      ∃ members, members ≠ [] ∧ BeginsMembers true cursor.rest members rest)

section Steps

variable {fuel : Nat}

/-- A value is passed over if what comes next can tell where it ends. -/
theorem passes_skipValue_then_iff (values : SkipsValues fuel)
    (enough : 2 * cursor.rest.length < fuel) {next : Cursor → Except Failure Cursor}
    (follows : Text → Prop) (ends : ∀ after, Passes (next after) rest → Follows after.rest)
    (closed : ∀ text, follows text → Follows text)
    (each : ∀ after, after.rest.length < cursor.rest.length →
      (Passes (next after) rest ↔ follows after.rest)) :
    Passes (skipValue fuel cursor >>= next) rest ↔
      ∃ tree behind, Begins (unblank cursor.rest) tree behind ∧ follows behind := by
  have shorter {tree : Tree} {behind : Text} (begins : Begins (unblank cursor.rest) tree behind) :
      behind.length < cursor.rest.length :=
    begins.length_lt.trans_le (length_unblank_le _)
  rw [passes_bind_iff]
  constructor
  · rintro ⟨after, found, passes⟩
    obtain ⟨tree, begins⟩ := (values enough (ends after passes)).mp ⟨after, found, rfl⟩
    exact ⟨tree, after.rest, begins, (each after (shorter begins)).mp passes⟩
  · rintro ⟨tree, behind, begins, known⟩
    obtain ⟨after, found, rfl⟩ := (values enough (closed _ known)).mpr ⟨tree, begins⟩
    exact ⟨after, found, (each after (shorter begins)).mpr known⟩

/-! ## The items behind an item -/

/-- Passes the bracket of a list behind an item, or the comma and the items that follow it. -/
def skipOtherItems (fuel : Nat) (cursor : Cursor) : Except Failure Cursor :=
  let cursor := cursor.skipBlank
  match cursor.rest with
  | [] => cursor.failHere .endInList
  | ',' :: _ => skipItems fuel cursor.next
  | ']' :: _ => .ok cursor.next
  | _ => cursor.failNext .expectedListCommaOrEnd

theorem skipItems_succ :
    skipItems (fuel + 1) cursor = skipValue fuel cursor >>= skipOtherItems fuel :=
  rfl

theorem passes_skipOtherItems_iff (items : SkipsItems fuel)
    (enough : 2 * cursor.rest.length + 1 < fuel) :
    Passes (skipOtherItems fuel cursor) rest ↔
      ∃ others, BeginsItems false cursor.rest others rest := by
  simp only [beginsItems_false_iff, ← rest_skipBlank]
  unfold skipOtherItems
  dsimp only
  split
  · next ends => simp [ends]
  · next more comma =>
      have shorter : more.length < cursor.rest.length := length_lt_of_unblank comma
      have opened : cursor.skipBlank.next.rest = more := by rw [rest_next, comma, List.tail_cons]
      rw [items (by rw [opened]; omega), opened]
      simp [comma]
  · next closed => simp [closed, rest_next]
  · next noComma noEnd =>
      refine iff_of_false (not_passes_failNext _) ?_
      rintro ⟨others, ⟨closed, -⟩ | ⟨more, comma, -⟩⟩
      · exact noEnd rest closed
      · exact noComma more comma

theorem skipsItems_succ (values : SkipsValues fuel) (items : SkipsItems fuel) :
    SkipsItems (fuel + 1) := by
  intro cursor rest enough
  have ends (after : Cursor) (passes : Passes (skipOtherItems fuel after) rest) :
      Follows after.rest := by
    unfold skipOtherItems at passes
    dsimp only at passes
    split at passes
    · nomatch passes
    · next comma => exact follows_of_unblank comma rfl
    · next closed => exact follows_of_unblank closed rfl
    · nomatch passes
  rw [skipItems_succ, passes_skipValue_then_iff values (by omega)
    (fun behind => ∃ others, BeginsItems false behind others rest) ends
    (fun _ ⟨_, areItems⟩ => follows_of_beginsItems areItems)
    fun after shorter => passes_skipOtherItems_iff items (by omega)]
  simp only [beginsItems_true_iff]
  constructor
  · rintro ⟨item, behind, begins, others, areItems⟩
    exact ⟨item :: others, List.cons_ne_nil _ _, .inr ⟨item, behind, others, begins, areItems, rfl⟩⟩
  · rintro ⟨_, some, ⟨-, rfl⟩ | ⟨item, behind, others, begins, areItems, -⟩⟩
    · exact (some rfl).elim
    · exact ⟨item, behind, begins, others, areItems⟩

/-! ## The members behind a member -/

/-- Passes the brace of an object behind a member, or the comma and the members that follow it. -/
def skipOtherMembers (fuel : Nat) (cursor : Cursor) : Except Failure Cursor :=
  let cursor := cursor.skipBlank
  match cursor.rest with
  | [] => cursor.failHere .endInObject
  | ',' :: _ => skipMembers fuel cursor.next
  | '\x7d' :: _ => .ok cursor.next
  | _ => cursor.failNext .expectedObjectCommaOrEnd

theorem skipMembers_succ {start : Text} (opened : cursor.skipBlank.rest = '\x22' :: start) :
    skipMembers (fuel + 1) cursor =
      (skipString cursor.skipBlank.next >>= fun named => skipColon named >>= fun value =>
        skipValue fuel value >>= skipOtherMembers fuel) := by
  rw [skipMembers]
  dsimp only
  split
  · simp_all
  · refine congrArg _ (funext fun named => ?_)
    rw [skipColon]
    split <;> rfl
  · next noName => exact (noName start opened).elim

theorem passes_skipOtherMembers_iff (members : SkipsMembers fuel)
    (enough : 2 * cursor.rest.length + 1 < fuel) :
    Passes (skipOtherMembers fuel cursor) rest ↔
      ∃ others, BeginsMembers false cursor.rest others rest := by
  simp only [beginsMembers_false_iff, ← rest_skipBlank]
  unfold skipOtherMembers
  dsimp only
  split
  · next ends => simp [ends]
  · next more comma =>
      have shorter : more.length < cursor.rest.length := length_lt_of_unblank comma
      have opened : cursor.skipBlank.next.rest = more := by rw [rest_next, comma, List.tail_cons]
      rw [members (by rw [opened]; omega), opened]
      simp [comma]
  · next closed => simp [closed, rest_next]
  · next noComma noEnd =>
      refine iff_of_false (not_passes_failNext _) ?_
      rintro ⟨others, ⟨closed, -⟩ | ⟨more, comma, -⟩⟩
      · exact noEnd rest closed
      · exact noComma more comma

theorem skipsMembers_succ (values : SkipsValues fuel) (members : SkipsMembers fuel) :
    SkipsMembers (fuel + 1) := by
  intro cursor rest enough
  by_cases opened : ∃ start, cursor.skipBlank.rest = '\x22' :: start
  · obtain ⟨start, opened⟩ := opened
    have begun : cursor.skipBlank.next.rest = start := by rw [rest_next, opened, List.tail_cons]
    have shorter : start.length < cursor.rest.length := length_lt_of_unblank opened
    have ends (after : Cursor) (passes : Passes (skipOtherMembers fuel after) rest) :
        Follows after.rest := by
      unfold skipOtherMembers at passes
      dsimp only at passes
      split at passes
      · nomatch passes
      · next comma => exact follows_of_unblank comma rfl
      · next closed => exact follows_of_unblank closed rfl
      · nomatch passes
    rw [skipMembers_succ opened, passes_then_iff
      (fun named => ∃ value, unblank named = ':' :: value ∧ ∃ tree behind,
        Begins (unblank value) tree behind ∧ ∃ others, BeginsMembers false behind others rest)]
    · simp only [passes_skipString_iff, begun, beginsMembers_true_iff, ← rest_skipBlank cursor,
        opened]
      constructor
      · rintro ⟨named, ⟨name, isName⟩, value, colon, tree, behind, begins, others, areMembers⟩
        exact ⟨(name, tree) :: others, List.cons_ne_nil _ _, .inr ⟨start, name, named, value, tree,
          behind, others, rfl, isName, colon, begins, areMembers, rfl⟩⟩
      · rintro ⟨_, some, ⟨-, rfl⟩ | ⟨_, name, named, value, tree, behind, others, same, isName,
          colon, begins, areMembers, -⟩⟩
        · exact (some rfl).elim
        · obtain rfl := (List.cons.inj same).2
          exact ⟨named, ⟨name, isName⟩, value, colon, tree, behind, begins, others, areMembers⟩
    · intro named reached
      obtain ⟨_, isString⟩ := passes_skipString_iff.mp reached
      have namedShorter := isString.length_lt
      rw [begun] at namedShorter
      rw [passes_then_iff (fun value => ∃ tree behind,
        Begins (unblank value) tree behind ∧ ∃ others, BeginsMembers false behind others rest)]
      · simp only [passes_skipColon_iff]
      · intro value reached
        have valueShorter := length_lt_of_unblank (passes_skipColon_iff.mp reached)
        exact passes_skipValue_then_iff values (by omega) _ ends
          (fun _ ⟨_, areMembers⟩ => follows_of_beginsMembers areMembers)
          fun after shorter => passes_skipOtherMembers_iff members (by omega)
  · have fails : ¬Passes (skipMembers (fuel + 1) cursor) rest := by
      rw [skipMembers]
      dsimp only
      split
      · nofun
      · next start begun => exact (opened ⟨start, begun⟩).elim
      · nofun
    refine iff_of_false fails ?_
    rintro ⟨_, some, areMembers⟩
    obtain ⟨-, rfl⟩ | ⟨start, _, _, _, _, _, _, begun, -⟩ := beginsMembers_true_iff.mp areMembers
    · exact some rfl
    · exact opened ⟨start, begun⟩

/-! ## Values -/

theorem beginsItems_unblank_iff {text : Text} {items : List Tree} :
    BeginsItems true (unblank text) items rest ↔ BeginsItems true text items rest := by
  simp only [beginsItems_true_iff, unblank_unblank]

theorem beginsMembers_unblank_iff {text : Text} {members : List (List Mark × Tree)} :
    BeginsMembers true (unblank text) members rest ↔ BeginsMembers true text members rest := by
  simp only [beginsMembers_true_iff, unblank_unblank]

/-- Passes a list behind its bracket. -/
def skipList (fuel : Nat) (cursor : Cursor) : Except Failure Cursor :=
  let cursor := cursor.skipBlank
  match cursor.rest with
  | [] => cursor.failHere .endInList
  | ']' :: _ => .ok cursor.next
  | _ => skipItems fuel cursor

/-- Passes an object behind its brace. -/
def skipObject (fuel : Nat) (cursor : Cursor) : Except Failure Cursor :=
  let cursor := cursor.skipBlank
  match cursor.rest with
  | [] => cursor.failHere .endInObject
  | '\x7d' :: _ => .ok cursor.next
  | _ => skipMembers fuel cursor

theorem passes_skipList_iff (items : SkipsItems fuel)
    (enough : 2 * cursor.rest.length + 1 < fuel) :
    Passes (skipList fuel cursor) rest ↔ ∃ items, BeginsItems true cursor.rest items rest := by
  have shorter : cursor.skipBlank.rest.length ≤ cursor.rest.length := length_unblank_le cursor.rest
  unfold skipList
  dsimp only
  split
  · next ends => simp [beginsItems_true_iff, ← rest_skipBlank, ends, not_begins_nil]
  · next more closed =>
      have noItem {tree : Tree} {behind : Text} : ¬Begins (']' :: more) tree behind :=
        not_begins_closer rfl
      simp [beginsItems_true_iff, ← rest_skipBlank, closed, rest_next, noItem]
  · next noEnd noBracket =>
      rw [items (by omega), rest_skipBlank]
      simp only [beginsItems_unblank_iff]
      refine exists_congr fun others => and_iff_right_of_imp ?_
      rintro areItems rfl
      obtain ⟨closed, -⟩ | ⟨_, _, _, -, -, same⟩ := beginsItems_true_iff.mp areItems
      · exact noBracket rest closed
      · nomatch same

theorem passes_skipObject_iff (members : SkipsMembers fuel)
    (enough : 2 * cursor.rest.length + 1 < fuel) :
    Passes (skipObject fuel cursor) rest ↔
      ∃ members, BeginsMembers true cursor.rest members rest := by
  have shorter : cursor.skipBlank.rest.length ≤ cursor.rest.length := length_unblank_le cursor.rest
  unfold skipObject
  dsimp only
  split
  · next ends => simp [beginsMembers_true_iff, ← rest_skipBlank, ends]
  · next more closed => simp [beginsMembers_true_iff, ← rest_skipBlank, closed, rest_next]
  · next noEnd noBrace =>
      rw [members (by omega), rest_skipBlank]
      simp only [beginsMembers_unblank_iff]
      refine exists_congr fun others => and_iff_right_of_imp ?_
      rintro areMembers rfl
      obtain ⟨closed, -⟩ | ⟨_, _, _, _, _, _, _, _, -, -, -, -, same⟩ :=
        beginsMembers_true_iff.mp areMembers
      · exact noBrace rest closed
      · nomatch same

theorem skipsValues_succ (items : SkipsItems fuel) (members : SkipsMembers fuel) :
    SkipsValues (fuel + 1) := by
  intro cursor rest enough follows
  have shorter : cursor.skipBlank.rest.length ≤ cursor.rest.length := length_unblank_le cursor.rest
  rw [skipValue, ← rest_skipBlank]
  dsimp only
  split
  · next ends => simp [ends, not_begins_nil]
  · next c text opened =>
      have behind : cursor.skipBlank.next.rest = text := by rw [rest_next, opened, List.tail_cons]
      have length : cursor.skipBlank.rest.length = text.length + 1 := congrArg List.length opened
      have list : Passes (skipList fuel cursor.skipBlank.next) rest ↔ _ :=
        passes_skipList_iff items (by rw [behind]; omega)
      have object : Passes (skipObject fuel cursor.skipBlank.next) rest ↔ _ :=
        passes_skipObject_iff members (by rw [behind]; omega)
      rw [behind] at list object
      simp only [opened, exists_begins_cons_iff, beq_iff_eq]
      split_ifs with isNull isTrue isFalse isMinus isDigit isQuote isBracket isBrace
      · simp [isNull, passes_scanLiteral_iff, behind, Text.isAsciiDigit]
      · simp [isTrue, passes_scanLiteral_iff, behind, Text.isAsciiDigit]
      · simp [isFalse, passes_scanLiteral_iff, behind, Text.isAsciiDigit]
      · simp [isMinus, passes_skipNumber_iff follows, behind, Text.isAsciiDigit]
      · have noOpening : c ≠ '\x22' ∧ c ≠ '[' ∧ c ≠ '\x7b' := by
          refine ⟨?_, ?_, ?_⟩ <;> rintro rfl <;> exact absurd isDigit (by decide)
        simp [*, passes_skipNumber_iff follows]
      · simp [isQuote, passes_skipString_iff, behind, Text.isAsciiDigit]
      · exact list.trans (by simp [isBracket, Text.isAsciiDigit])
      · exact object.trans (by simp [isBrace, Text.isAsciiDigit])
      · simp [*]

end Steps

theorem skips (fuel : Nat) : SkipsValues fuel ∧ SkipsItems fuel ∧ SkipsMembers fuel := by
  induction fuel with
  | zero => exact ⟨nofun, nofun, nofun⟩
  | succ fuel induction =>
      obtain ⟨values, items, members⟩ := induction
      exact ⟨skipsValues_succ items members, skipsItems_succ values items,
        skipsMembers_succ values members⟩

/-- A value of any kind is passed over if and only if the text begins with one. -/
theorem passes_skipValue_iff (follows : Follows rest) :
    Passes (skipValue (enoughFuel cursor) cursor) rest ↔
      ∃ tree, Begins (unblank cursor.rest) tree rest :=
  (skips _).1 (Nat.lt_add_of_pos_right Nat.zero_lt_two) follows

end DocSite.Json
