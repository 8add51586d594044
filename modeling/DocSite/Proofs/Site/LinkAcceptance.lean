import DocSite.Proofs.Site.SidebarFormat

/-!
# Which links the reader of sidebars accepts

An object for a link is read member by member. What is still to come for the object to be one of the
format depends only on the fields that have been read. A list gives the values of the fields in
their order, and ends behind any value but the first.
-/

namespace DocSite.Sidebar

open Json

variable {α : Type} {cursor : Cursor} {rest : Text}

/-! ## Fields of a draft -/

/-- Whether a field has been read. -/
def Draft.has (draft : Draft) : Field → Bool
  | .title => draft.title.isSome
  | .file => draft.file.isSome
  | .description => draft.description.isSome
  | .subsections => draft.subsections.isSome

/-- What is kept of a field. -/
def Field.Content : Field → Type
  | title | file => Text
  | description => Option Text
  | subsections => Option Sidebar

/-- A draft with one more field. -/
def Draft.set (draft : Draft) : (field : Field) → field.Content → Draft
  | .title, title => { draft with title := some title }
  | .file, file => { draft with file := some file }
  | .description, description => { draft with description := some description }
  | .subsections, subsections => { draft with subsections := some subsections }

theorem Draft.has_set (draft : Draft) (field : Field) (content : field.Content) :
    (draft.set field content).has = fun other => other == field || draft.has other := by
  funext other
  cases field <;> cases other <;> rfl

/-- All fields that are needed have been read. -/
def Draft.IsComplete (draft : Draft) : Prop :=
  ∀ field : Field, field.isNeeded → draft.has field

theorem Draft.finish_eq_ok_iff {draft : Draft} {key : Text} :
    (∃ first subsections, draft.finish key = .ok (first, subsections)) ↔ draft.IsComplete := by
  obtain ⟨title, file, description, subsections⟩ := draft
  constructor
  · rintro ⟨first, below, finished⟩ field needed
    cases title with
    | none => nomatch finished
    | some title =>
        cases file with
        | none => nomatch finished
        | some file => cases field <;> first | rfl | nomatch needed
  · intro complete
    obtain ⟨title, rfl⟩ := Option.isSome_iff_exists.mp (complete .title rfl)
    obtain ⟨file, rfl⟩ := Option.isSome_iff_exists.mp (complete .file rfl)
    exact ⟨_, _, rfl⟩

/-- The members of an object for a link are read to its end. -/
def Finishes (outcome : Except Failure (Draft × Cursor)) (rest : Text) : Prop :=
  ∃ draft, Gives outcome draft rest ∧ draft.IsComplete

/-! ## One member -/

/-- Reads the value of a field. -/
def Field.read (fuel depth : Nat) :
    (field : Field) → Cursor → Except Failure (field.Content × Cursor)
  | title => readText
  | file => readText
  | description => readOptional readText
  | subsections => readOptional (readSidebar fuel depth)

/-- Reads a member of the object for a link behind its name, and the members that follow it. -/
def readMember (fuel depth : Nat) (draft : Draft) (name : Text) (cursor : Cursor) :
    Except Failure (Draft × Cursor) :=
  match Field.all.find? fun field => name == field.name with
  | some field =>
    if draft.has field then repeated name cursor
    else do
      let (content, after) ← field.read fuel depth (← skipColon cursor)
      readMembers fuel depth false (draft.set field content) after
  | none => do
    let opened ← skipColon cursor
    readMembers fuel depth false draft (← skipValue (enoughFuel opened) opened)

theorem readMember_field {fuel depth : Nat} {draft : Draft} (field : Field) :
    readMember fuel depth draft field.name cursor =
      if draft.has field then repeated field.name cursor
      else skipColon cursor >>= fun opened => field.read fuel depth opened >>= fun found =>
        readMembers fuel depth false (draft.set field found.1) found.2 := by
  cases field <;> rfl

theorem readMember_other {fuel depth : Nat} {draft : Draft} {name : Text}
    (isOther : ∀ field : Field, name ≠ field.name) :
    readMember fuel depth draft name cursor =
      (skipColon cursor >>= fun opened => skipValue (enoughFuel opened) opened >>=
        readMembers fuel depth false draft) := by
  have missing : (Field.all.find? fun field => name == field.name) = none :=
    List.find?_eq_none.mpr fun field _ => by simpa using isOther field
  rw [readMember, missing]

theorem readMembers_succ (fuel depth : Nat) (isFirst : Bool) (draft : Draft) :
    readMembers (fuel + 1) depth isFirst draft cursor =
      (nextMember isFirst cursor >>= fun
        | (false, cursor) => .ok (draft, cursor)
        | (true, cursor) => scanString cursor >>= fun (name, cursor) =>
          readMember fuel depth draft name cursor) := by
  rw [readMembers]
  refine congrArg (nextMember isFirst cursor >>= ·) (funext fun found => ?_)
  obtain ⟨isMember, opened⟩ := found
  cases isMember with
  | false => rfl
  | true =>
      refine congrArg (scanString opened >>= ·) (funext fun found => ?_)
      obtain ⟨name, named⟩ := found
      dsimp only
      by_cases isField : ∃ field : Field, name = field.name
      · obtain ⟨field, rfl⟩ := isField
        rw [readMember_field]
        cases field <;> rfl
      · have isOther := not_exists.mp isField
        have title : (name == "title".toList) = false := beq_false_of_ne (isOther .title)
        have file : (name == "file".toList) = false := beq_false_of_ne (isOther .file)
        have description : (name == "description".toList) = false :=
          beq_false_of_ne (isOther .description)
        have subsections : (name == "subsections".toList) = false :=
          beq_false_of_ne (isOther .subsections)
        rw [readMember_other isOther, title, if_neg Bool.false_ne_true, file,
          if_neg Bool.false_ne_true, description, if_neg Bool.false_ne_true, subsections,
          if_neg Bool.false_ne_true]

theorem repeated_ne_ok {name : Text} {found : α} : repeated name cursor ≠ .ok found := by
  unfold repeated
  dsimp only
  split <;> nofun

/-- A field is read if it is new and its value may be there, and then whatever follows. -/
theorem finishes_field_iff {isSidebar : Tree → Prop} {field : Field} {draft : Draft} {name : Text}
    {read : Cursor → Except Failure (α × Cursor)} {limit : Nat}
    (takes : Takes read (field.Admits isSidebar) limit) (short : cursor.rest.length ≤ limit)
    {next : α × Cursor → Except Failure (Draft × Cursor)} (follows : Text → Prop)
    (each : ∀ value after, after.rest.length < limit →
      (Finishes (next (value, after)) rest ↔ follows after.rest)) :
    Finishes (if draft.has field then repeated name cursor
        else skipColon cursor >>= fun opened => read opened >>= next) rest ↔
      draft.has field = false ∧ ∃ value tree behind, unblank cursor.rest = ':' :: value ∧
        Begins (unblank value) tree behind ∧ field.Admits isSidebar tree ∧ follows behind := by
  cases draft.has field with
  | true =>
      refine iff_of_false ?_ nofun
      rintro ⟨result, ⟨_, found, -⟩, -⟩
      exact repeated_ne_ok found
  | false =>
      rw [if_neg Bool.false_ne_true, and_iff_right rfl]
      constructor
      · rintro ⟨result, ⟨last, found, ends⟩, complete⟩
        obtain ⟨opened, colon, found⟩ := Except.bind_eq_ok_iff.mp found
        obtain ⟨⟨value, after⟩, read, found⟩ := Except.bind_eq_ok_iff.mp found
        have colon_eq := passes_skipColon_iff.mp ⟨opened, colon, rfl⟩
        have shorter := length_lt_of_unblank colon_eq
        obtain ⟨tree, begins, admits⟩ := (takes (by omega)).mp ⟨value, after, read, rfl⟩
        have behind := begins.length_lt.trans_le (length_unblank_le _)
        exact ⟨opened.rest, tree, after.rest, colon_eq, begins, admits,
          (each value after (by omega)).mp ⟨result, ⟨last, found, ends⟩, complete⟩⟩
      · rintro ⟨value, tree, behind, colon_eq, begins, admits, known⟩
        obtain ⟨opened, colon, rfl⟩ := passes_skipColon_iff.mpr colon_eq
        have shorter := length_lt_of_unblank colon_eq
        have behindShorter := begins.length_lt.trans_le (length_unblank_le _)
        obtain ⟨value, after, read, rfl⟩ := (takes (by omega)).mpr ⟨tree, begins, admits⟩
        obtain ⟨result, ⟨last, found, ends⟩, complete⟩ :=
          (each value after (by omega)).mpr known
        refine ⟨result, ⟨last, ?_, ends⟩, complete⟩
        rw [colon, Except.ok_bind, read, Except.ok_bind, found]

/-- A member that is not a field is passed over, and then whatever follows. -/
theorem finishes_other_iff {next : Cursor → Except Failure (Draft × Cursor)}
    (follows : Text → Prop) (ends : ∀ after, Finishes (next after) rest → Follows after.rest)
    (closed : ∀ text, follows text → Follows text)
    (each : ∀ after, after.rest.length < cursor.rest.length →
      (Finishes (next after) rest ↔ follows after.rest)) :
    Finishes (skipColon cursor >>= fun opened => skipValue (enoughFuel opened) opened >>= next)
        rest ↔
      ∃ value tree behind, unblank cursor.rest = ':' :: value ∧ Begins (unblank value) tree behind ∧
        follows behind := by
  constructor
  -- Where the value ends is known only once something has been read behind it.
  · rintro ⟨result, ⟨last, found, stops⟩, complete⟩
    obtain ⟨opened, colon, found⟩ := Except.bind_eq_ok_iff.mp found
    obtain ⟨after, skipped, found⟩ := Except.bind_eq_ok_iff.mp found
    have finishes : Finishes (next after) rest := ⟨result, ⟨last, found, stops⟩, complete⟩
    have colon_eq := passes_skipColon_iff.mp ⟨opened, colon, rfl⟩
    obtain ⟨tree, begins⟩ :=
      (passes_skipValue_iff (ends after finishes)).mp ⟨after, skipped, rfl⟩
    have shorter := length_lt_of_unblank colon_eq
    have behind := begins.length_lt.trans_le (length_unblank_le _)
    exact ⟨opened.rest, tree, after.rest, colon_eq, begins,
      (each after (by omega)).mp finishes⟩
  · rintro ⟨value, tree, behind, colon_eq, begins, known⟩
    obtain ⟨opened, colon, rfl⟩ := passes_skipColon_iff.mpr colon_eq
    have shorter := length_lt_of_unblank colon_eq
    have behindShorter := begins.length_lt.trans_le (length_unblank_le _)
    obtain ⟨after, skipped, rfl⟩ := (passes_skipValue_iff (closed _ known)).mpr ⟨tree, begins⟩
    obtain ⟨result, ⟨last, found, stops⟩, complete⟩ := (each after (by omega)).mpr known
    refine ⟨result, ⟨last, ?_, stops⟩, complete⟩
    rw [colon, Except.ok_bind, skipped, Except.ok_bind, found]

theorem follows_of_readMembers {fuel depth : Nat} {draft : Draft} {found : Draft × Cursor}
    (read : readMembers fuel depth false draft cursor = .ok found) : Follows cursor.rest := by
  cases fuel with
  | zero => simp [readMembers] at read
  | succ fuel =>
      rw [readMembers_succ] at read
      obtain ⟨⟨isMember, after⟩, next, -⟩ := Except.bind_eq_ok_iff.mp read
      have parted := gives_nextMember_iff.mp ⟨after, next, rfl⟩
      cases isMember with
      | false => exact follows_of_unblank parted rfl
      | true =>
          obtain ⟨more, comma, -⟩ := parted
          exact follows_of_unblank comma rfl

/-! ## All members -/

/-- With this fuel, short enough objects of links are read. -/
def ReadsSidebars (fuel : Nat) : Prop :=
  ∀ depth, Takes (readSidebar fuel depth) (IsSidebar true depth) fuel

/-- With this fuel, the members of short enough objects for links are read. -/
def ReadsMembers (fuel : Nat) : Prop :=
  ∀ {depth isFirst draft} {cursor : Cursor} {rest : Text}, cursor.rest.length < fuel →
    (Finishes (readMembers fuel depth isFirst draft cursor) rest ↔
      ∃ members, BeginsMembers isFirst cursor.rest members rest ∧
        Completes (IsSidebar true depth) draft.has members)

section Steps

variable {fuel depth : Nat} {draft : Draft}

theorem Field.takes_read (sidebars : ReadsSidebars fuel) (field : Field) :
    Takes (field.read fuel depth) (field.Admits (IsSidebar true depth)) fuel := by
  cases field with
  | title => exact takes_readText fuel
  | file => exact takes_readText fuel
  | description => exact Takes.readOptional (takes_readText fuel)
  | subsections => exact Takes.readOptional (sidebars depth)

theorem finishes_field_member_iff {field : Field} {marks : List Mark}
    (sidebars : ReadsSidebars fuel) (members : ReadsMembers fuel)
    (short : cursor.rest.length ≤ fuel) (known : textOf? marks = some field.name) :
    Finishes (readMember fuel depth draft field.name cursor) rest ↔
      ∃ value tree behind others, unblank cursor.rest = ':' :: value ∧
        Begins (unblank value) tree behind ∧ BeginsMembers false behind others rest ∧
        Completes (IsSidebar true depth) draft.has ((marks, tree) :: others) := by
  rw [readMember_field, finishes_field_iff (field.takes_read sidebars) short
    (fun behind => ∃ others, BeginsMembers false behind others rest ∧
      Completes (IsSidebar true depth) (fun other => other == field || draft.has other) others)
    fun content after shorter => by rw [members shorter, draft.has_set field content]]
  simp only [completes_cons_field_iff known]
  constructor
  · rintro ⟨fresh, value, tree, behind, colon, begins, admits, others, areMembers, complete⟩
    exact ⟨value, tree, behind, others, colon, begins, areMembers, fresh, admits, complete⟩
  · rintro ⟨value, tree, behind, others, colon, begins, areMembers, fresh, admits, complete⟩
    exact ⟨fresh, value, tree, behind, colon, begins, admits, others, areMembers, complete⟩

theorem finishes_other_member_iff {marks : List Mark} {name : Text} (members : ReadsMembers fuel)
    (short : cursor.rest.length ≤ fuel) (known : textOf? marks = some name)
    (isOther : ∀ field : Field, name ≠ field.name) :
    Finishes (readMember fuel depth draft name cursor) rest ↔
      ∃ value tree behind others, unblank cursor.rest = ':' :: value ∧
        Begins (unblank value) tree behind ∧ BeginsMembers false behind others rest ∧
        Completes (IsSidebar true depth) draft.has ((marks, tree) :: others) := by
  rw [readMember_other isOther, finishes_other_iff (fun behind => ∃ others,
      BeginsMembers false behind others rest ∧ Completes (IsSidebar true depth) draft.has others)
    (fun _ ⟨_, ⟨_, found, _⟩, _⟩ => follows_of_readMembers found)
    (fun _ ⟨_, areMembers, _⟩ => follows_of_beginsMembers areMembers)
    fun after shorter => members (by omega)]
  simp only [completes_cons_other_iff known isOther, exists_and_left]

theorem finishes_readMember_iff {marks : List Mark} {name : Text} (sidebars : ReadsSidebars fuel)
    (members : ReadsMembers fuel) (short : cursor.rest.length ≤ fuel)
    (known : textOf? marks = some name) :
    Finishes (readMember fuel depth draft name cursor) rest ↔
      ∃ value tree behind others, unblank cursor.rest = ':' :: value ∧
        Begins (unblank value) tree behind ∧ BeginsMembers false behind others rest ∧
        Completes (IsSidebar true depth) draft.has ((marks, tree) :: others) := by
  by_cases isField : ∃ field : Field, name = field.name
  · obtain ⟨field, rfl⟩ := isField
    exact finishes_field_member_iff sidebars members short known
  · exact finishes_other_member_iff members short known (not_exists.mp isField)

theorem readsMembers_succ (sidebars : ReadsSidebars fuel) (members : ReadsMembers fuel) :
    ReadsMembers (fuel + 1) := by
  intro depth isFirst draft cursor rest short
  rw [readMembers_succ]
  constructor
  · rintro ⟨result, ⟨last, found, ends⟩, complete⟩
    obtain ⟨⟨isMember, opened⟩, next, found⟩ := Except.bind_eq_ok_iff.mp found
    have parted := gives_nextMember_iff.mp ⟨opened, next, rfl⟩
    cases isMember with
    | false =>
        cases found
        rw [← ends]
        exact ⟨[], .done parted, completes_nil_iff.mpr complete⟩
    | true =>
        obtain ⟨⟨name, named⟩, scanned, found⟩ := Except.bind_eq_ok_iff.mp found
        obtain ⟨marks, isName, known⟩ := gives_scanString_iff.mp ⟨named, scanned, rfl⟩
        have begun := Nat.lt_of_succ_le (Separated.length_le parted)
        have shorter := isName.length_lt
        obtain ⟨value, tree, behind, others, colon, begins, areMembers, known⟩ :=
          (finishes_readMember_iff sidebars members (by omega) known).mp
            ⟨result, ⟨last, found, ends⟩, complete⟩
        exact ⟨_, .member parted isName colon begins areMembers, known⟩
  · rintro ⟨_, whole, known⟩
    obtain ⟨closed, rfl⟩ | ⟨start, marks, named, value, tree, behind, others, separated, isName,
      colon, begins, areMembers, rfl⟩ := beginsMembers_iff.mp whole
    · have found : Gives (nextMember isFirst cursor) false rest := gives_nextMember_iff.mpr closed
      obtain ⟨after, next, ends⟩ := found
      exact ⟨draft, ⟨after, by rw [next]; rfl, ends⟩, completes_nil_iff.mp known⟩
    · have found : Gives (nextMember isFirst cursor) true start :=
        gives_nextMember_iff.mpr separated
      obtain ⟨opened, next, rfl⟩ := found
      have named_isSome : (textOf? marks).isSome := (List.forall_mem_cons.mp known.1).1
      obtain ⟨name, text⟩ := Option.isSome_iff_exists.mp named_isSome
      obtain ⟨after, scanned, rfl⟩ := gives_scanString_iff.mpr ⟨marks, isName, text⟩
      have begun := Nat.lt_of_succ_le (Separated.length_le separated)
      have shorter := isName.length_lt
      obtain ⟨result, ⟨last, found, ends⟩, complete⟩ :=
        (finishes_readMember_iff sidebars members (by omega) text).mpr
          ⟨value, tree, behind, others, colon, begins, areMembers, known⟩
      refine ⟨result, ⟨last, ?_, ends⟩, complete⟩
      rw [next, Except.ok_bind]
      dsimp only
      rw [scanned, Except.ok_bind]
      exact found

/-! ## Lists of values -/

/-- A link is read to its end. -/
def GivesLink (outcome : Except Failure (SidebarLink × Sidebar × Cursor)) (rest : Text) : Prop :=
  ∃ first subsections after, outcome = .ok (first, subsections, after) ∧ after.rest = rest

@[simp] theorem givesLink_ok_iff {first : SidebarLink} {subsections : Sidebar} :
    GivesLink (.ok (first, subsections, cursor)) rest ↔ cursor.rest = rest := by
  simp [GivesLink]

@[simp] theorem not_givesLink_failHere (fault : Fault) : ¬GivesLink (cursor.failHere fault) rest :=
  nofun

theorem givesLink_bind_iff {outcome : Except Failure α}
    {next : α → Except Failure (SidebarLink × Sidebar × Cursor)} :
    GivesLink (outcome >>= next) rest ↔
      ∃ value, outcome = .ok value ∧ GivesLink (next value) rest :=
  Except.holds_bind_iff (GivesLink · rest) fun _ => nofun

section Items

variable {isSidebar : Tree → Prop} {field : Field} {fields : List Field}
  {read : Cursor → Except Failure (α × Cursor)} {limit : Nat}

/-- The values of some fields from one on, which is read first. -/
def ItemsFrom (isSidebar : Tree → Prop) (field : Field) (fields : List Field)
    (start rest : Text) : Prop :=
  ∃ tree behind others, Begins start tree behind ∧ field.Admits isSidebar tree ∧
    BeginsItems false behind others rest ∧ AreLinkItems isSidebar fields others

theorem givesLink_read_iff (takes : Takes read (field.Admits isSidebar) limit)
    (short : cursor.rest.length < limit)
    {next : α × Cursor → Except Failure (SidebarLink × Sidebar × Cursor)}
    (each : ∀ value after, after.rest.length < cursor.rest.length →
      (GivesLink (next (value, after)) rest ↔
        ∃ others, BeginsItems false after.rest others rest ∧
          AreLinkItems isSidebar fields others)) :
    GivesLink (read cursor >>= next) rest ↔
      ItemsFrom isSidebar field fields (unblank cursor.rest) rest := by
  rw [givesLink_bind_iff]
  constructor
  · rintro ⟨⟨value, after⟩, found, gives⟩
    obtain ⟨tree, begins, admits⟩ := (takes short).mp ⟨value, after, found, rfl⟩
    have shorter := begins.length_lt.trans_le (length_unblank_le _)
    obtain ⟨others, areItems, known⟩ := (each value after shorter).mp gives
    exact ⟨tree, after.rest, others, begins, admits, areItems, known⟩
  · rintro ⟨tree, behind, others, begins, admits, areItems, known⟩
    have shorter := begins.length_lt.trans_le (length_unblank_le _)
    obtain ⟨value, after, found, rfl⟩ := (takes short).mpr ⟨tree, begins, admits⟩
    exact ⟨(value, after), found, (each value after shorter).mpr ⟨others, areItems, known⟩⟩

theorem givesLink_nextItem_iff {isFirst : Bool}
    {next : Bool × Cursor → Except Failure (SidebarLink × Sidebar × Cursor)}
    (stops : ∀ after more, after.rest = ']' :: more → (GivesLink (next (false, after)) rest ↔
      more = rest ∧ ∀ other ∈ field :: fields, other.isNeeded = false))
    (each : ∀ after, after.rest.length ≤ cursor.rest.length →
      (GivesLink (next (true, after)) rest ↔
        ItemsFrom isSidebar field fields (unblank after.rest) rest)) :
    GivesLink (nextItem isFirst cursor >>= next) rest ↔
      ∃ items, BeginsItems isFirst cursor.rest items rest ∧
        AreLinkItems isSidebar (field :: fields) items := by
  rw [givesLink_bind_iff]
  constructor
  · rintro ⟨⟨isItem, after⟩, found, gives⟩
    have reached : Gives (nextItem isFirst cursor) isItem after.rest := ⟨after, found, rfl⟩
    generalize opened : after.rest = text at reached
    cases text with
    | nil => exact (not_gives_nextItem_nil reached).elim
    | cons c text =>
        have parted := gives_nextItem_iff.mp reached
        cases isItem with
        | false =>
            obtain ⟨closed, rfl⟩ := parted
            obtain ⟨rfl, left⟩ := (stops after text opened).mp gives
            exact ⟨[], .done closed, left⟩
        | true =>
            rw [← opened] at parted
            obtain ⟨tree, behind, others, begins, admits, areItems, known⟩ :=
              (each after parted.1.length_le).mp gives
            rw [parted.1.unblank_eq] at begins
            exact ⟨tree :: others, .item parted.1 begins areItems, admits, known⟩
  · rintro ⟨items, whole, known⟩
    obtain ⟨closed, rfl⟩ | ⟨start, tree, behind, others, separated, begins, areItems, rfl⟩ :=
      beginsItems_iff.mp whole
    · have found : Gives (nextItem isFirst cursor) false (']' :: rest) :=
        gives_nextItem_iff.mpr ⟨closed, rfl⟩
      obtain ⟨after, found, opened⟩ := found
      exact ⟨(false, after), found, (stops after rest opened).mpr ⟨rfl, known⟩⟩
    · have found : Gives (nextItem isFirst cursor) true start := by
        cases start with
        | nil => exact (not_begins_nil begins).elim
        | cons c text =>
            refine gives_nextItem_iff.mpr ⟨separated, ?_⟩
            rintro rfl
            exact not_begins_closer rfl begins
      obtain ⟨after, found, rfl⟩ := found
      refine ⟨(true, after), found, (each after separated.length_le).mpr ?_⟩
      rw [separated.unblank_eq]
      exact ⟨tree, behind, others, begins, known.1, areItems, known.2⟩

end Items

theorem givesLink_endList_iff {first : SidebarLink} {subsections : Sidebar} :
    GivesLink (endList cursor >>= fun after => .ok (first, subsections, after)) rest ↔
      unblank cursor.rest = ']' :: rest := by
  rw [givesLink_bind_iff, ← passes_endList_iff]
  simp [Passes]

theorem exists_no_items_iff {isSidebar : Tree → Prop} {text : Text} :
    (∃ others, BeginsItems false text others rest ∧ AreLinkItems isSidebar [] others) ↔
      unblank text = ']' :: rest := by
  constructor
  · rintro ⟨others, areItems, none⟩
    cases areItems with
    | done closed => exact closed
    | item => exact none.elim
  · exact fun closed => ⟨[], .done closed, nofun⟩

/-- With this fuel, short enough lists of the values of links are read. -/
def ReadsItems (fuel : Nat) : Prop :=
  ∀ {depth key} {cursor : Cursor} {rest : Text}, cursor.rest.length < fuel →
    (GivesLink (readItems fuel depth key cursor) rest ↔ ∃ items,
      BeginsItems true cursor.rest items rest ∧
        AreLinkItems (IsSidebar true depth) Field.all items)

theorem readsItems_succ (sidebars : ReadsSidebars fuel) : ReadsItems (fuel + 1) := by
  intro depth key cursor rest short
  rw [readItems]
  refine givesLink_nextItem_iff (fun after more opened => ?_) fun titled titledShorter => ?_
  · simp [Field.isNeeded]
  refine givesLink_read_iff (takes_readText _) (Nat.lt_succ_self _)
    fun title afterTitle titleShorter => ?_
  refine givesLink_nextItem_iff (fun after more opened => ?_) fun filed filedShorter => ?_
  · simp [Field.isNeeded]
  refine givesLink_read_iff (takes_readText _) (Nat.lt_succ_self _)
    fun file afterFile fileShorter => ?_
  refine givesLink_nextItem_iff (fun after more opened => ?_) fun described describedShorter => ?_
  · simp [Field.isNeeded, rest_next, opened]
  refine givesLink_read_iff (Takes.readOptional (takes_readText _)) (Nat.lt_succ_self _)
    fun description afterDescription descriptionShorter => ?_
  refine givesLink_nextItem_iff (fun after more opened => ?_) fun last lastShorter => ?_
  · simp [Field.isNeeded, rest_next, opened]
  refine givesLink_read_iff (Takes.readOptional (sidebars depth)) (by omega)
    fun subsections afterSubsections subsectionsShorter => ?_
  exact givesLink_endList_iff.trans exists_no_items_iff.symm

end Steps

end DocSite.Sidebar
