import DocSite.Proofs.Site.LinkAcceptance

/-!
# Which texts are read as sidebars

The readers of sidebars and links call each other, each time with less fuel and behind at least one
more character. So a text is read if and only if it is a value in the format, and as a list is
accepted for a link, the format is wider than objects of objects.
-/

namespace DocSite.Sidebar

open Json

variable {cursor : Cursor} {rest : Text}

section Steps

variable {fuel : Nat}

/-! ## Links -/

/-- With this fuel, short enough links are read. -/
def ReadsLink (fuel : Nat) : Prop :=
  ∀ {depth key} {cursor : Cursor} {rest : Text}, cursor.rest.length < fuel →
    (GivesLink (readLink fuel depth key cursor) rest ↔
      ∃ tree, Begins (unblank cursor.rest) tree rest ∧ IsLink true depth tree)

/-- With this fuel, the members of short enough objects of links are read. -/
def ReadsLinks (fuel : Nat) : Prop :=
  ∀ {depth isFirst} {cursor : Cursor} {rest : Text}, cursor.rest.length < fuel →
    ((∃ sidebar, Gives (readLinks fuel depth isFirst cursor) sidebar rest) ↔
      ∃ members, BeginsMembers isFirst cursor.rest members rest ∧
        ∀ member ∈ members, (textOf? member.1).isSome ∧ IsLink true depth member.2)

theorem givesLink_finish_iff {outcome : Except Failure (Draft × Cursor)} {key : Text} :
    GivesLink (outcome >>= fun (draft, after) => match draft.finish key with
      | .ok (first, subsections) => .ok (first, subsections, after)
      | .error fault => after.failHere fault) rest ↔ Finishes outcome rest := by
  rw [givesLink_bind_iff]
  constructor
  · rintro ⟨⟨draft, after⟩, found, gives⟩
    dsimp only at gives
    split at gives
    · next first subsections finished =>
        exact ⟨draft, ⟨after, found, givesLink_ok_iff.mp gives⟩,
          Draft.finish_eq_ok_iff.mp ⟨first, subsections, finished⟩⟩
    · exact (not_givesLink_failHere _ gives).elim
  · rintro ⟨draft, ⟨after, found, ends⟩, complete⟩
    obtain ⟨first, subsections, finished⟩ := Draft.finish_eq_ok_iff.mpr complete
    refine ⟨(draft, after), found, ?_⟩
    dsimp only
    rw [finished]
    exact givesLink_ok_iff.mpr ends

theorem has_empty : Draft.has {} = fun _ => false := by
  funext field
  cases field <;> rfl

theorem readsLink_succ (members : ReadsMembers fuel) (items : ReadsItems fuel) :
    ReadsLink (fuel + 1) := by
  intro depth key cursor rest short
  have shorter : cursor.skipBlank.rest.length ≤ cursor.rest.length := length_unblank_le cursor.rest
  rw [readLink.eq_def, ← rest_skipBlank]
  dsimp only
  split
  · next ends => simp [ends, not_begins_nil]
  · next c text opened =>
      have behind : cursor.skipBlank.next.rest = text := by rw [rest_next, opened, List.tail_cons]
      have length : cursor.skipBlank.rest.length = text.length + 1 := congrArg List.length opened
      rw [opened]
      split_ifs with isBrace isBracket
      · obtain rfl := eq_of_beq isBrace
        rw [exists_begins_object_iff]
        cases depth with
        | zero => simp [Cursor.failNext, GivesLink, IsLink]
        | succ depth =>
            have own : Finishes (readMembers fuel depth true {} cursor.skipBlank.next) rest ↔ _ :=
              members (by rw [behind]; omega)
            rw [behind] at own
            refine givesLink_finish_iff.trans (own.trans ?_)
            simp only [has_empty, completes_start_iff, IsLink]
      · obtain rfl := eq_of_beq isBracket
        rw [exists_begins_list_iff]
        cases depth with
        | zero => simp [Cursor.failNext, GivesLink, IsLink]
        | succ depth =>
            simp only [IsLink, true_and]
            rw [← behind]
            exact items (by rw [behind]; omega)
      · refine iff_of_false ?_ ?_
        · rintro ⟨_, _, _, found, -⟩
          exact wrongKind_ne_ok found
        · rintro ⟨tree, begins, isLink⟩
          cases depth with
          | zero => exact isLink.elim
          | succ depth =>
              cases tree with
              | object members =>
                  obtain ⟨more, same, -⟩ := begins_object_iff.mp begins
                  exact isBrace (beq_iff_eq.mpr (List.cons.inj same).1)
              | list items =>
                  obtain ⟨more, same, -⟩ := begins_list_iff.mp begins
                  exact isBracket (beq_iff_eq.mpr (List.cons.inj same).1)
              | _ => exact isLink.elim

theorem readsLinks_succ (link : ReadsLink fuel) (links : ReadsLinks fuel) :
    ReadsLinks (fuel + 1) := by
  intro depth isFirst cursor rest short
  rw [readLinks]
  constructor
  · rintro ⟨sidebar, last, found, ends⟩
    obtain ⟨⟨isMember, opened⟩, next, found⟩ := Except.bind_eq_ok_iff.mp found
    have parted := gives_nextMember_iff.mp ⟨opened, next, rfl⟩
    cases isMember with
    | false =>
        cases found
        rw [← ends]
        exact ⟨[], .done parted, List.forall_mem_nil _⟩
    | true =>
        obtain ⟨⟨key, named⟩, scanned, found⟩ := Except.bind_eq_ok_iff.mp found
        obtain ⟨marks, isName, text⟩ := gives_scanString_iff.mp ⟨named, scanned, rfl⟩
        obtain ⟨value, colon, found⟩ := Except.bind_eq_ok_iff.mp found
        have colon_eq := passes_skipColon_iff.mp ⟨value, colon, rfl⟩
        obtain ⟨⟨first, subsections, behind⟩, read, found⟩ := Except.bind_eq_ok_iff.mp found
        obtain ⟨⟨others, after⟩, following, same⟩ := Except.bind_eq_ok_iff.mp found
        have begun := Nat.lt_of_succ_le (Separated.length_le parted)
        have nameShorter := isName.length_lt
        have valueShorter := length_lt_of_unblank colon_eq
        obtain ⟨tree, begins, isLink⟩ :=
          (link (by omega)).mp ⟨first, subsections, behind, read, rfl⟩
        have linkShorter := begins.length_lt.trans_le (length_unblank_le _)
        cases same
        obtain ⟨members, areMembers, areLinks⟩ :=
          (links (by omega)).mp ⟨others, last, following, ends⟩
        exact ⟨(marks, tree) :: members, .member parted isName colon_eq begins areMembers,
          List.forall_mem_cons.mpr ⟨⟨Option.isSome_of_eq_some text, isLink⟩, areLinks⟩⟩
  · rintro ⟨_, whole, known⟩
    obtain ⟨closed, rfl⟩ | ⟨start, marks, named, value, tree, behind, others, separated, isName,
      colon, begins, areMembers, rfl⟩ := beginsMembers_iff.mp whole
    · have found : Gives (nextMember isFirst cursor) false rest := gives_nextMember_iff.mpr closed
      obtain ⟨after, next, ends⟩ := found
      exact ⟨empty, after, by rw [next]; rfl, ends⟩
    · have found : Gives (nextMember isFirst cursor) true start :=
        gives_nextMember_iff.mpr separated
      obtain ⟨opened, next, rfl⟩ := found
      obtain ⟨⟨named_isSome, isLink⟩, areLinks⟩ := List.forall_mem_cons.mp known
      obtain ⟨key, text⟩ := Option.isSome_iff_exists.mp named_isSome
      obtain ⟨named, scanned, rfl⟩ := gives_scanString_iff.mpr ⟨marks, isName, text⟩
      obtain ⟨value, opening, rfl⟩ := passes_skipColon_iff.mpr colon
      have begun := Nat.lt_of_succ_le (Separated.length_le separated)
      have nameShorter := isName.length_lt
      have valueShorter := length_lt_of_unblank colon
      have linkShorter := begins.length_lt.trans_le (length_unblank_le _)
      obtain ⟨first, subsections, behind, read, rfl⟩ :=
        (link (by omega)).mpr ⟨tree, begins, isLink⟩
      obtain ⟨others, after, following, ends⟩ :=
        (links (by omega)).mpr ⟨others, areMembers, areLinks⟩
      refine ⟨.link first subsections others, after, ?_, ends⟩
      rw [next, Except.ok_bind]
      dsimp only
      rw [scanned, Except.ok_bind]
      dsimp only
      rw [opening, Except.ok_bind, read, Except.ok_bind]
      dsimp only
      rw [following]
      rfl

theorem readsSidebars_succ (links : ReadsLinks fuel) : ReadsSidebars (fuel + 1) := by
  intro depth cursor rest short
  have shorter : cursor.skipBlank.rest.length ≤ cursor.rest.length := length_unblank_le cursor.rest
  rw [readSidebar.eq_def, ← rest_skipBlank]
  dsimp only
  split
  · next ends => simp [ends, not_begins_nil]
  · next text opened =>
      have behind : cursor.skipBlank.next.rest = text := by rw [rest_next, opened, List.tail_cons]
      have length : cursor.skipBlank.rest.length = text.length + 1 := congrArg List.length opened
      rw [opened, exists_begins_object_iff]
      cases depth with
      | zero => simp [Cursor.failNext, Gives, IsSidebar]
      | succ depth =>
          simp only [IsSidebar]
          rw [← behind]
          exact links (by rw [behind]; omega)
  · next noEnd noBrace =>
      refine iff_of_false ?_ ?_
      · rintro ⟨_, _, found, -⟩
        exact wrongKind_ne_ok found
      · rintro ⟨tree, begins, isSidebar⟩
        cases depth with
        | zero => exact isSidebar.elim
        | succ depth =>
            cases tree with
            | object members =>
                obtain ⟨more, same, -⟩ := begins_object_iff.mp begins
                exact noBrace more same
            | _ => exact isSidebar.elim

end Steps

/-- By induction on the fuel, of which one step is enough for each character. -/
theorem reads (fuel : Nat) : ReadsSidebars fuel ∧ ReadsLinks fuel ∧ ReadsLink fuel ∧
    ReadsMembers fuel ∧ ReadsItems fuel := by
  induction fuel with
  | zero => exact ⟨nofun, nofun, nofun, nofun, nofun⟩
  | succ fuel induction =>
      obtain ⟨sidebars, links, link, members, items⟩ := induction
      exact ⟨readsSidebars_succ links, readsLinks_succ link links, readsLink_succ members items,
        readsMembers_succ sidebars members, readsItems_succ sidebars⟩

/-! ## Texts -/

theorem ofJson_eq_ok_iff {text : Text} :
    (∃ sidebar, ofJson text = .ok sidebar) ↔
      ∃ tree, Spells text tree ∧ IsSidebar true depthLimit tree := by
  have start : (∃ sidebar, ofJson text = .ok sidebar) ↔
      ∃ behind, unblank behind = [] ∧ ∃ sidebar,
        Gives (readSidebar (3 * text.length + 3) depthLimit (.of text)) sidebar behind := by
    constructor
    · rintro ⟨sidebar, read⟩
      obtain ⟨⟨found, after⟩, read, ended⟩ :=
        Except.bind_eq_ok_iff.mp (Except.mapError_eq_ok_iff.mp read)
      obtain ⟨_, ends, -⟩ := Except.bind_eq_ok_iff.mp ended
      exact ⟨after.rest, endText_eq_ok_iff.mp ends, found, after, read, rfl⟩
    · rintro ⟨_, ends, sidebar, after, read, rfl⟩
      refine ⟨sidebar, Except.mapError_eq_ok_iff.mpr ?_⟩
      rw [read, Except.ok_bind]
      dsimp only
      rw [endText_eq_ok_iff.mpr ends]
      rfl
  have enough : (Cursor.of text).rest.length < 3 * text.length + 3 := by
    change text.length < _
    omega
  rw [start]
  constructor
  · rintro ⟨behind, ends, read⟩
    obtain ⟨tree, begins, isSidebar⟩ := ((reads _).1 depthLimit enough).mp read
    exact ⟨tree, ⟨behind, begins, ends⟩, isSidebar⟩
  · rintro ⟨tree, ⟨behind, begins, ends⟩, isSidebar⟩
    exact ⟨behind, ends, ((reads _).1 depthLimit enough).mpr ⟨tree, begins, isSidebar⟩⟩

theorem ofJson_eq_parse_iff {text : Text} :
    (∃ failure, ofJson text = .error (.parse failure)) ↔ ¬∃ sidebar, ofJson text = .ok sidebar := by
  constructor
  · rintro ⟨failure, failed⟩ ⟨sidebar, read⟩
    nomatch failed.symm.trans read
  · exact fun none => Except.exists_mapError_eq_error fun sidebar read =>
      none ⟨sidebar, Except.mapError_eq_ok_iff.mpr read⟩

/-- A text is read as a sidebar if and only if it is a value in the format, in which a link may also
be a list; any other text fails to parse. All sidebars that have objects as links are among them. -/
theorem text_is_read_as_sidebar_iff (text : Text) :
    ((∃ sidebar, ofJson text = .ok sidebar) ↔
      ∃ tree, Spells text tree ∧ IsSidebar true depthLimit tree) ∧
    ((∃ failure, ofJson text = .error (.parse failure)) ↔
      ¬∃ tree, Spells text tree ∧ IsSidebar true depthLimit tree) ∧
    ((∃ tree, Spells text tree ∧ IsSidebar false depthLimit tree) →
      ∃ sidebar, ofJson text = .ok sidebar) := by
  refine ⟨ofJson_eq_ok_iff, ofJson_eq_parse_iff.trans (not_congr ofJson_eq_ok_iff), ?_⟩
  rintro ⟨tree, spells, isSidebar⟩
  exact ofJson_eq_ok_iff.mpr ⟨tree, spells, (isLink_and_isSidebar_of_objects _).1 tree isSidebar⟩

/-- A link that is a list of two texts is read, although it is no object. -/
theorem text_is_read_as_sidebar_iff_list_link :
    (∃ sidebar, ofJson "\x7b\"\":[\"\",\"\"]\x7d" = .ok sidebar) ∧
      ¬∃ tree, Spells "\x7b\"\":[\"\",\"\"]\x7d" tree ∧ IsSidebar false depthLimit tree := by
  constructor
  · have spells : Spells "\x7b\"\":[\"\",\"\"]\x7d"
        (.object [([], .list [.string [], .string []])]) :=
      ⟨[], .object (.member rfl .close rfl (.list (.item rfl (.string .close)
        (.item ⟨_, rfl, rfl⟩ (.string .close) (.done rfl)))) (.done rfl)), rfl⟩
    refine (text_is_read_as_sidebar_iff _).1.mpr ⟨_, spells, ?_⟩
    rintro member isMember
    obtain rfl := List.mem_singleton.mp isMember
    refine ⟨rfl, rfl, rfl, rfl, ?_⟩
    simp [AreLinkItems, Field.isNeeded]
  · rintro ⟨tree, ⟨rest, begins, -⟩, isSidebar⟩
    obtain ⟨members, areMembers, areLinks⟩ := exists_begins_object_iff.mp ⟨tree, begins, isSidebar⟩
    obtain ⟨closed, -⟩ | ⟨start, name, named, value, link, behind, others, opened, isName, colon,
      begins, -, rfl⟩ := beginsMembers_iff.mp areMembers
    · cases closed
    · obtain rfl := (List.cons.inj opened).2
      obtain ⟨rfl, -⟩ := beginsString_quote_iff.mp isName
      obtain rfl := (List.cons.inj colon).2
      obtain ⟨items, -, isList, -⟩ := exists_begins_list_iff.mp
        ⟨link, begins, (List.forall_mem_cons.mp areLinks).1.2⟩
      exact Bool.false_ne_true isList

end DocSite.Sidebar
