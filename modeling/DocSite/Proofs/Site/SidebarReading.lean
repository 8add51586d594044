import DocSite.Proofs.Except
import DocSite.Proofs.Json.Objects
import DocSite.Site.Sidebar

/-!
# Sidebars are read as they were written

A sidebar is written as an object of objects. Read again, each link is found with all that it had,
in its place, and the links below it with it, as long as the reader may follow the objects so deep.
A sidebar that has been read from some text is not written deeper than that text.
-/

namespace DocSite.Sidebar

open Json

/-! ## Members of a link -/

section Members

variable (fuel depth : Nat) (isFirst : Bool) (draft : Draft) (text : Text)
  (members : List (Text × Json)) (place : Place) (rest : Text)

theorem readMembers_end :
    ∃ after, readMembers (fuel + 1) depth isFirst draft ⟨place, membersText isFirst [] rest⟩ =
      .ok (draft, ⟨after, rest⟩) := by
  obtain ⟨after, next⟩ := nextMember_end isFirst place rest
  exact ⟨after, by rw [readMembers, next]; rfl⟩

theorem readMembers_title (missing : draft.title.isSome = false) :
    ∃ after, readMembers (fuel + 1) depth isFirst draft
        ⟨place, membersText isFirst (("title".toList, .string text) :: members) rest⟩ =
      readMembers fuel depth false { draft with title := some text }
        ⟨after, membersText false members rest⟩ := by
  obtain ⟨opened, named, behind, next, name, colon⟩ :=
    reads_member isFirst "title".toList (.string text) members place rest
  obtain ⟨after, value⟩ := reads_readText text behind (membersText false members rest)
  have own : ("title".toList == "title".toList) = true := rfl
  refine ⟨after, ?_⟩
  rw [readMembers, next, Except.ok_bind]
  dsimp only
  rw [name, Except.ok_bind]
  dsimp only
  rw [own, if_pos rfl, missing, if_neg Bool.false_ne_true, colon, Except.ok_bind, compact, value]
  rfl

theorem readMembers_file (missing : draft.file.isSome = false) :
    ∃ after, readMembers (fuel + 1) depth isFirst draft
        ⟨place, membersText isFirst (("file".toList, .string text) :: members) rest⟩ =
      readMembers fuel depth false { draft with file := some text }
        ⟨after, membersText false members rest⟩ := by
  obtain ⟨opened, named, behind, next, name, colon⟩ :=
    reads_member isFirst "file".toList (.string text) members place rest
  obtain ⟨after, value⟩ := reads_readText text behind (membersText false members rest)
  have title : ("file".toList == "title".toList) = false := rfl
  have own : ("file".toList == "file".toList) = true := rfl
  refine ⟨after, ?_⟩
  rw [readMembers, next, Except.ok_bind]
  dsimp only
  rw [name, Except.ok_bind]
  dsimp only
  rw [title, if_neg Bool.false_ne_true, own, if_pos rfl, missing, if_neg Bool.false_ne_true, colon,
    Except.ok_bind, compact, value]
  rfl

theorem readMembers_description (missing : draft.description.isSome = false) :
    ∃ after, readMembers (fuel + 1) depth isFirst draft
        ⟨place, membersText isFirst (("description".toList, .string text) :: members) rest⟩ =
      readMembers fuel depth false { draft with description := some (some text) }
        ⟨after, membersText false members rest⟩ := by
  obtain ⟨opened, named, behind, next, name, colon⟩ :=
    reads_member isFirst "description".toList (.string text) members place rest
  have reads : Reads (readOptional readText) (quote text) (some text) :=
    (reads_readText text).readOptional rfl (by decide)
  obtain ⟨after, value⟩ := reads behind (membersText false members rest)
  have title : ("description".toList == "title".toList) = false := rfl
  have file : ("description".toList == "file".toList) = false := rfl
  have own : ("description".toList == "description".toList) = true := rfl
  refine ⟨after, ?_⟩
  rw [readMembers, next, Except.ok_bind]
  dsimp only
  rw [name, Except.ok_bind]
  dsimp only
  rw [title, if_neg Bool.false_ne_true, file, if_neg Bool.false_ne_true, own, if_pos rfl, missing,
    if_neg Bool.false_ne_true, colon, Except.ok_bind, compact, value]
  rfl

theorem readMembers_subsections {subsections : Sidebar}
    (reads : Reads (readSidebar fuel depth) subsections.toJson.compact subsections)
    (missing : draft.subsections.isSome = false) :
    ∃ after, readMembers (fuel + 1) depth isFirst draft
        ⟨place, membersText isFirst (("subsections".toList, subsections.toJson) :: members) rest⟩ =
      readMembers fuel depth false { draft with subsections := some (some subsections) }
        ⟨after, membersText false members rest⟩ := by
  obtain ⟨opened, named, behind, next, name, colon⟩ :=
    reads_member isFirst "subsections".toList subsections.toJson members place rest
  have reads : Reads (readOptional (readSidebar fuel depth)) subsections.toJson.compact
      (some subsections) :=
    reads.readOptional rfl (by decide)
  obtain ⟨after, value⟩ := reads behind (membersText false members rest)
  have title : ("subsections".toList == "title".toList) = false := rfl
  have file : ("subsections".toList == "file".toList) = false := rfl
  have description : ("subsections".toList == "description".toList) = false := rfl
  have own : ("subsections".toList == "subsections".toList) = true := rfl
  refine ⟨after, ?_⟩
  rw [readMembers, next, Except.ok_bind]
  dsimp only
  rw [name, Except.ok_bind]
  dsimp only
  rw [title, if_neg Bool.false_ne_true, file, if_neg Bool.false_ne_true, description,
    if_neg Bool.false_ne_true, own, if_pos rfl, missing, if_neg Bool.false_ne_true, colon,
    Except.ok_bind, value]
  rfl

/-- The description is passed if there is one. -/
theorem readMembers_description? (missing : draft.description = none)
    (description : Option Text) :
    ∃ more after, fuel ≤ more ∧
      readMembers (fuel + 1) depth false draft ⟨place, membersText false
        ((description.map fun text => ("description".toList, Json.string text)).toList ++ members)
        rest⟩ =
      readMembers more depth false { draft with description := description.map some }
        ⟨after, membersText false members rest⟩ := by
  cases description with
  | none =>
      refine ⟨fuel + 1, place, Nat.le_succ fuel, ?_⟩
      rw [Option.map_none, Option.map_none, ← missing]
      rfl
  | some text =>
      obtain ⟨after, read⟩ := readMembers_description fuel depth false draft text members place
        rest (by rw [missing]; rfl)
      exact ⟨fuel, after, Nat.le_refl fuel, read⟩

end Members

/-! ## Links -/

/-- How many members and objects are read for a sidebar at most. -/
def steps : Sidebar → Nat
  | empty => 1
  | link _ subsections rest => 8 + subsections.steps + rest.steps

/-- What is read of a link's object. -/
def draftOf (first : SidebarLink) (subsections : Sidebar) : Draft where
  title := some first.title
  file := some first.file
  description := first.description.map some
  subsections := if subsections.isEmpty then none else some (some subsections)

theorem finish_draftOf (first : SidebarLink) (subsections : Sidebar) :
    (draftOf first subsections).finish first.key = .ok (first, subsections) := by
  obtain ⟨key, title, file, description⟩ := first
  cases description <;> cases subsections <;> rfl

/-- The description of a link and its subsections, as far as they are written. -/
def optionalMembers (first : SidebarLink) (subsections : Sidebar) : List (Text × Json) :=
  (first.description.map fun text => ("description".toList, Json.string text)).toList ++
    (if subsections.isEmpty then [] else [("subsections".toList, subsections.toJson)])

theorem linkMembers_members (first : SidebarLink) (subsections : Sidebar) :
    linkMembers first subsections.members =
      ("title".toList, .string first.title) :: ("file".toList, .string first.file) ::
        optionalMembers first subsections := by
  cases subsections <;> rfl

theorem nesting_subsections (first : SidebarLink) {subsections : Sidebar}
    (written : subsections.isEmpty = false) :
    subsections.toJson.nesting ≤ membersNesting (linkMembers first subsections.members) := by
  rw [linkMembers_members, optionalMembers, written, if_neg Bool.false_ne_true, membersNesting,
    membersNesting, membersNesting_append, membersNesting, membersNesting]
  omega

section Links

variable {fuel depth : Nat} (first : SidebarLink) {subsections : Sidebar}
  (reads : subsections.isEmpty = false → ∀ more, subsections.steps < more →
    Reads (readSidebar more depth) subsections.toJson.compact subsections)
include reads

theorem readMembers_optionalMembers (enough : subsections.steps + 4 ≤ fuel) (place : Place)
    (rest : Text) :
    ∃ after, readMembers fuel depth false { title := some first.title, file := some first.file }
        ⟨place, membersText false (optionalMembers first subsections) rest⟩ =
      .ok (draftOf first subsections, ⟨after, rest⟩) := by
  obtain ⟨fuel, rfl⟩ := Nat.exists_eq_add_of_le' (show 1 ≤ fuel by omega)
  obtain ⟨more, behind, enoughMore, description⟩ := readMembers_description? fuel depth
    { title := some first.title, file := some first.file }
    (if subsections.isEmpty then [] else [("subsections".toList, subsections.toJson)]) place rest
    rfl first.description
  rw [optionalMembers, description]
  obtain ⟨more, rfl⟩ := Nat.exists_eq_add_of_le' (show 2 ≤ more by omega)
  cases isEmpty : subsections.isEmpty with
  | true =>
      rw [if_pos rfl, draftOf, isEmpty, if_pos rfl]
      exact readMembers_end (more + 1) depth false _ behind rest
  | false =>
      obtain ⟨behindSubsections, found⟩ := readMembers_subsections (more + 1) depth false
        { title := some first.title, file := some first.file,
          description := first.description.map some }
        [] behind rest (reads isEmpty (more + 1) (by omega)) rfl
      rw [if_neg Bool.false_ne_true, draftOf, isEmpty, if_neg Bool.false_ne_true, found]
      exact readMembers_end more depth false _ behindSubsections rest

theorem readMembers_linkMembers (enough : subsections.steps + 6 ≤ fuel) (place : Place)
    (rest : Text) :
    ∃ after, readMembers fuel depth true {} ⟨place,
        membersText true (linkMembers first subsections.members) rest⟩ =
      .ok (draftOf first subsections, ⟨after, rest⟩) := by
  obtain ⟨fuel, rfl⟩ := Nat.exists_eq_add_of_le' (show 2 ≤ fuel by omega)
  obtain ⟨behindTitle, title⟩ := readMembers_title (fuel + 1) depth true {} first.title
    (("file".toList, .string first.file) :: optionalMembers first subsections) place rest rfl
  obtain ⟨behindFile, file⟩ := readMembers_file fuel depth false { title := some first.title }
    first.file (optionalMembers first subsections) behindTitle rest rfl
  rw [linkMembers_members, title, file]
  exact readMembers_optionalMembers first reads (by omega) behindFile rest

theorem readLink_written (enough : subsections.steps + 7 ≤ fuel) (place : Place) (rest : Text) :
    ∃ after, readLink fuel (depth + 1) first.key ⟨place,
        (object (linkMembers first subsections.members)).compact ++ rest⟩ =
      .ok (first, subsections, ⟨after, rest⟩) := by
  obtain ⟨fuel, rfl⟩ := Nat.exists_eq_add_of_le' (show 1 ≤ fuel by omega)
  obtain ⟨after, read⟩ := readMembers_linkMembers first reads (show _ ≤ fuel by omega)
    (place.pass '\x7b') rest
  refine ⟨after, ?_⟩
  rw [compact_object_append, readLink, skipBlank_cons (by decide)]
  dsimp only
  rw [if_pos (by decide), Cursor.next, read, Except.ok_bind]
  dsimp only
  rw [finish_draftOf]
  rfl

end Links

theorem reads_readSidebar {fuel depth : Nat} {sidebar : Sidebar}
    (read : ∀ place rest, ∃ after,
      readLinks fuel depth true ⟨place, membersText true sidebar.members rest⟩ =
        .ok (sidebar, ⟨after, rest⟩)) :
    Reads (readSidebar (fuel + 1) (depth + 1)) sidebar.toJson.compact sidebar := by
  intro place rest
  obtain ⟨after, read⟩ := read (place.pass '\x7b') rest
  refine ⟨after, ?_⟩
  rw [toJson, compact_object_append, readSidebar, skipBlank_cons (by decide)]
  exact read

/-- The members of a written sidebar are read again, by induction over the sidebar: those of the
subsections are at most one object and one list deeper. -/
theorem readLinks_written (sidebar : Sidebar) : ∀ (fuel depth : Nat) (isFirst : Bool)
    (place : Place) (rest : Text), sidebar.steps ≤ fuel → membersNesting sidebar.members ≤ depth →
    ∃ after, readLinks fuel depth isFirst ⟨place, membersText isFirst sidebar.members rest⟩ =
      .ok (sidebar, ⟨after, rest⟩) := by
  induction sidebar with
  | empty =>
      intro fuel depth isFirst place rest enough shallow
      obtain ⟨fuel, rfl⟩ := Nat.exists_eq_add_of_le' (show 1 ≤ fuel from enough)
      obtain ⟨after, next⟩ := nextMember_end isFirst place rest
      exact ⟨after, by rw [members, readLinks, next]; rfl⟩
  | link first subsections others below behind =>
      intro fuel depth isFirst place rest enough shallow
      rw [steps] at enough
      obtain ⟨fuel, rfl⟩ := Nat.exists_eq_add_of_le' (show 1 ≤ fuel by omega)
      rw [members, membersNesting, nesting] at shallow
      obtain ⟨depth, rfl⟩ := Nat.exists_eq_add_of_le' (show 1 ≤ depth by omega)
      have reads : subsections.isEmpty = false → ∀ more, subsections.steps < more →
          Reads (readSidebar more depth) subsections.toJson.compact subsections := by
        intro written more enough
        have deeper : membersNesting subsections.members + 1 ≤ depth :=
          (nesting_subsections first written).trans (by omega)
        obtain ⟨depth, rfl⟩ := Nat.exists_eq_add_of_le' (show 1 ≤ depth by omega)
        obtain ⟨more, rfl⟩ := Nat.exists_eq_add_of_le' (show 1 ≤ more by omega)
        exact reads_readSidebar fun place rest =>
          below more depth true place rest (by omega) (by omega)
      obtain ⟨opened, named, value, next, name, colon⟩ := reads_member isFirst first.key
        (.object (linkMembers first subsections.members)) others.members place rest
      obtain ⟨behindLink, read⟩ := readLink_written first reads (show _ ≤ fuel by omega) value
        (membersText false others.members rest)
      obtain ⟨after, following⟩ := behind fuel (depth + 1) false behindLink rest (by omega)
        (by omega)
      refine ⟨after, ?_⟩
      rw [members, readLinks, next, Except.ok_bind]
      dsimp only
      rw [name, Except.ok_bind]
      dsimp only
      rw [colon, Except.ok_bind, read, Except.ok_bind]
      dsimp only
      rw [following]
      rfl

theorem length_optionalMembers (first : SidebarLink) {subsections : Sidebar}
    (written : subsections.isEmpty = false) :
    (compactMembers subsections.members).length ≤
      (compactMembers (optionalMembers first subsections)).length := by
  rw [optionalMembers, written, if_neg Bool.false_ne_true, toJson]
  have last := length_compactMembers_append
    (first.description.map fun text => ("description".toList, Json.string text)).toList
    [("subsections".toList, .object subsections.members)]
  have own := length_compactMembers_cons ("subsections".toList, .object subsections.members) []
  rw [length_compact_object] at own
  omega

theorem steps_le (sidebar : Sidebar) :
    sidebar.steps ≤ (compactMembers sidebar.members).length + 1 := by
  induction sidebar with
  | empty => exact Nat.le_refl 1
  | link first subsections others below behind =>
      have whole := length_compactMembers_cons
        (first.key, object (linkMembers first subsections.members)) others.members
      have title := length_compactMembers_cons ("title".toList, .string first.title)
        (("file".toList, .string first.file) :: optionalMembers first subsections)
      have file := length_compactMembers_cons ("file".toList, .string first.file)
        (optionalMembers first subsections)
      have titleText : 2 ≤ (Json.string first.title).compact.length :=
        two_le_length_compact_string _
      have fileText : 2 ≤ (Json.string first.file).compact.length :=
        two_le_length_compact_string _
      have nested : subsections.steps ≤
          (compactMembers (optionalMembers first subsections)).length + 1 := by
        cases written : subsections.isEmpty with
        | true =>
            cases subsections with
            | empty => exact Nat.succ_le_succ (Nat.zero_le _)
            | link => nomatch written
        | false => exact below.trans (Nat.succ_le_succ (length_optionalMembers first written))
      rw [length_compact_object] at whole
      rw [steps, members]
      rw [linkMembers_members] at whole ⊢
      dsimp only at title file
      omega

/-! ## What has been read -/

/-- The subsections of a link nest no deeper than this, if there are any. -/
def Fits (depth : Nat) (subsections : Sidebar) : Prop :=
  subsections.isEmpty = false → subsections.toJson.nesting ≤ depth

theorem nesting_linkMembers_le {depth : Nat} {subsections : Sidebar} (first : SidebarLink)
    (fits : Fits depth subsections) :
    membersNesting (linkMembers first subsections.members) ≤ depth := by
  have described : membersNesting (first.description.map fun text =>
      ("description".toList, Json.string text)).toList = 0 := by
    cases first.description <;> rfl
  have below : membersNesting (if subsections.isEmpty then []
      else [("subsections".toList, subsections.toJson)]) ≤ depth := by
    cases written : subsections.isEmpty with
    | true => exact Nat.zero_le depth
    | false => exact Nat.max_le.mpr ⟨fits written, Nat.zero_le depth⟩
  rw [linkMembers_members, optionalMembers, membersNesting, membersNesting, membersNesting_append,
    described, nesting, nesting]
  omega

/-- The subsections of a draft fit, if it has any. -/
def Draft.Fits (depth : Nat) (draft : Draft) : Prop :=
  ∀ known, draft.subsections = some (some known) → known.Fits depth

theorem Draft.fits_empty {depth : Nat} : Draft.Fits depth {} := by
  intro known same
  nomatch same

theorem Draft.Fits.finish {depth : Nat} {draft : Draft} {key : Text} {first : SidebarLink}
    {subsections : Sidebar} (fits : draft.Fits depth)
    (finished : draft.finish key = .ok (first, subsections)) : subsections.Fits depth := by
  have same : (draft.subsections.getD none).getD empty = subsections := by
    unfold Draft.finish at finished
    split at finished
    · nomatch finished
    · nomatch finished
    · cases finished
      rfl
  rw [← same]
  match known : draft.subsections with
  | some (some below) => exact fits below known
  | some none => exact nofun
  | none => exact nofun

/-- What comes once at most has been read if it has not come before. -/
theorem once_eq_ok {α β : Type} {seen : Bool} {name : Text} {cursor : Cursor}
    {read : Cursor → Except Failure α} {next : α → Except Failure β} {result : β}
    (found : (if seen then repeated name cursor
      else skipColon cursor >>= fun opened => read opened >>= next) = .ok result) :
    ∃ opened value, read opened = .ok value ∧ next value = .ok result := by
  cases seen with
  | true =>
      simp only [repeated, if_true] at found
      split at found <;> nomatch found
  | false =>
      obtain ⟨opened, -, found⟩ := Except.bind_eq_ok_iff.mp found
      obtain ⟨value, readValue, found⟩ := Except.bind_eq_ok_iff.mp found
      exact ⟨opened, value, readValue, found⟩

mutual

/-- A sidebar that has been read does not nest deeper than the reader goes. -/
theorem nesting_readSidebar {depth : Nat} {cursor after : Cursor} {sidebar : Sidebar} :
    ∀ fuel, readSidebar fuel depth cursor = .ok (sidebar, after) →
      sidebar.toJson.nesting ≤ depth
  | 0, read => by simp [readSidebar] at read
  | fuel + 1, read => by
      cases depth with
      | zero =>
          rw [readSidebar] at read
          split at read <;> simp at read
      | succ depth =>
          rw [readSidebar] at read
          split at read
          · nomatch read
          · exact Nat.succ_le_succ (nesting_readLinks fuel read)
          · exact (wrongKind_ne_ok read).elim
termination_by fuel => fuel

theorem nesting_readLinks {depth : Nat} {isFirst : Bool} {cursor after : Cursor}
    {sidebar : Sidebar} :
    ∀ fuel, readLinks fuel depth isFirst cursor = .ok (sidebar, after) →
      membersNesting sidebar.members ≤ depth
  | 0, read => by simp [readLinks] at read
  | fuel + 1, read => by
      rw [readLinks] at read
      obtain ⟨⟨isMember, opened⟩, -, read⟩ := Except.bind_eq_ok_iff.mp read
      cases isMember with
      | false =>
          cases read
          exact Nat.zero_le depth
      | true =>
          obtain ⟨⟨key, named⟩, -, read⟩ := Except.bind_eq_ok_iff.mp read
          obtain ⟨value, -, read⟩ := Except.bind_eq_ok_iff.mp read
          obtain ⟨⟨first, subsections, behind⟩, link, read⟩ := Except.bind_eq_ok_iff.mp read
          obtain ⟨⟨others, last⟩, following, read⟩ := Except.bind_eq_ok_iff.mp read
          cases read
          rw [members, membersNesting]
          exact Nat.max_le.mpr ⟨nesting_readLink fuel link, nesting_readLinks fuel following⟩
termination_by fuel => fuel

theorem nesting_readLink {depth : Nat} {key : Text} {cursor after : Cursor} {first : SidebarLink}
    {subsections : Sidebar} :
    ∀ fuel, readLink fuel depth key cursor = .ok (first, subsections, after) →
      (object (linkMembers first subsections.members)).nesting ≤ depth
  | 0, read => by simp [readLink] at read
  | fuel + 1, read => by
      cases depth with
      | zero =>
          rw [readLink] at read
          split at read
          · nomatch read
          · split at read
            · nomatch read
            · split at read <;> simp at read
      | succ depth =>
          refine Nat.succ_le_succ (nesting_linkMembers_le first ?_)
          rw [readLink] at read
          split at read
          · nomatch read
          · split at read
            · obtain ⟨⟨draft, behind⟩, members, read⟩ := Except.bind_eq_ok_iff.mp read
              dsimp only at read
              split at read
              · rename_i finished
                cases read
                exact (fits_readMembers Draft.fits_empty fuel members).finish finished
              · nomatch read
            · split at read
              · exact fits_readItems fuel read
              · exact (wrongKind_ne_ok read).elim
termination_by fuel => fuel

theorem fits_readMembers {depth : Nat} {isFirst : Bool} {draft result : Draft}
    {cursor after : Cursor} (fits : draft.Fits depth) :
    ∀ fuel, readMembers fuel depth isFirst draft cursor = .ok (result, after) →
      result.Fits depth
  | 0, read => by simp [readMembers] at read
  | fuel + 1, read => by
      rw [readMembers] at read
      obtain ⟨⟨isMember, opened⟩, -, read⟩ := Except.bind_eq_ok_iff.mp read
      cases isMember with
      | false =>
          cases read
          exact fits
      | true =>
          obtain ⟨⟨name, named⟩, -, read⟩ := Except.bind_eq_ok_iff.mp read
          dsimp only at read
          split at read
          · obtain ⟨_, ⟨title, _⟩, -, read⟩ := once_eq_ok read
            have kept : Draft.Fits depth { draft with title := some title } := fits
            exact fits_readMembers kept fuel read
          split at read
          · obtain ⟨_, ⟨file, _⟩, -, read⟩ := once_eq_ok read
            have kept : Draft.Fits depth { draft with file := some file } := fits
            exact fits_readMembers kept fuel read
          split at read
          · obtain ⟨_, ⟨description, _⟩, -, read⟩ := once_eq_ok read
            have kept : Draft.Fits depth { draft with description := some description } := fits
            exact fits_readMembers kept fuel read
          split at read
          · obtain ⟨_, ⟨subsections, _⟩, found, read⟩ := once_eq_ok read
            have fresh : Draft.Fits depth { draft with subsections := some subsections } := by
              intro known same
              cases Option.some.inj same
              obtain ⟨start, below⟩ := readOptional_eq_some found
              exact fun _ => nesting_readSidebar fuel below
            exact fits_readMembers fresh fuel read
          · obtain ⟨_, -, read⟩ := Except.bind_eq_ok_iff.mp read
            obtain ⟨_, -, read⟩ := Except.bind_eq_ok_iff.mp read
            exact fits_readMembers fits fuel read
termination_by fuel => fuel

theorem fits_readItems {depth : Nat} {key : Text} {cursor after : Cursor} {first : SidebarLink}
    {subsections : Sidebar} :
    ∀ fuel, readItems fuel depth key cursor = .ok (first, subsections, after) →
      subsections.Fits depth
  | 0, read => by simp [readItems] at read
  | fuel + 1, read => by
      rw [readItems] at read
      obtain ⟨⟨hasTitle, _⟩, -, read⟩ := Except.bind_eq_ok_iff.mp read
      cases hasTitle
      case false => nomatch read
      obtain ⟨⟨title, _⟩, -, read⟩ := Except.bind_eq_ok_iff.mp read
      obtain ⟨⟨hasFile, _⟩, -, read⟩ := Except.bind_eq_ok_iff.mp read
      cases hasFile
      case false => nomatch read
      obtain ⟨⟨file, _⟩, -, read⟩ := Except.bind_eq_ok_iff.mp read
      obtain ⟨⟨hasDescription, _⟩, -, read⟩ := Except.bind_eq_ok_iff.mp read
      cases hasDescription
      case false =>
        cases read
        exact nofun
      obtain ⟨⟨description, _⟩, -, read⟩ := Except.bind_eq_ok_iff.mp read
      obtain ⟨⟨hasSubsections, _⟩, -, read⟩ := Except.bind_eq_ok_iff.mp read
      cases hasSubsections
      case false =>
        cases read
        exact nofun
      obtain ⟨⟨subsections, _⟩, found, read⟩ := Except.bind_eq_ok_iff.mp read
      obtain ⟨_, -, read⟩ := Except.bind_eq_ok_iff.mp read
      cases read
      cases subsections with
      | none => exact nofun
      | some known =>
          obtain ⟨start, below⟩ := readOptional_eq_some found
          exact fun _ => nesting_readSidebar fuel below
termination_by fuel => fuel

end

/-! ## Texts of sidebars -/

theorem nesting_ofJson {text : Text} {sidebar : Sidebar} (read : ofJson text = .ok sidebar) :
    sidebar.toJson.nesting ≤ depthLimit := by
  obtain ⟨⟨found, after⟩, read, ends⟩ :=
    Except.bind_eq_ok_iff.mp (Except.mapError_eq_ok_iff.mp read)
  obtain ⟨_, -, same⟩ := Except.bind_eq_ok_iff.mp ends
  cases same
  exact nesting_readSidebar _ read

theorem ofJson_compact {sidebar : Sidebar} (shallow : sidebar.toJson.nesting ≤ depthLimit) :
    ofJson sidebar.toJson.compact = .ok sidebar := by
  have length : sidebar.toJson.compact.length = (compactMembers sidebar.members).length + 2 :=
    length_compact_object sidebar.members
  have enough := sidebar.steps_le
  have reads : Reads (readSidebar (3 * sidebar.toJson.compact.length + 3) depthLimit)
      sidebar.toJson.compact sidebar :=
    reads_readSidebar fun place rest =>
      readLinks_written sidebar _ _ true place rest (by omega) (Nat.le_of_succ_le_succ shallow)
  obtain ⟨after, read⟩ := reads .start []
  rw [List.append_nil] at read
  rw [ofJson, Cursor.of, read]
  rfl

theorem ofJson_compact_iff (sidebar : Sidebar) :
    ofJson sidebar.toJson.compact = .ok sidebar ↔ sidebar.toJson.nesting ≤ depthLimit :=
  ⟨nesting_ofJson, ofJson_compact⟩

end DocSite.Sidebar
