import DocSite.Proofs.Toml.Keys
import DocSite.Toml.Record

/-!
# What is taken up of a record

A record is taken up field by field. What the settings show of one field afterwards is the member of
a table with the name of the field, or the item of a list at its place; no other field has a part in
it, as long as no key comes twice.
-/

namespace DocSite.Toml

/-! ## Single values -/

theorem Value.text_eq_ok {value : Value} {text : Text} (taken : value.text = .ok text) :
    value = .string text := by
  cases value with
  | string found =>
      cases taken
      rfl
  | _ =>
      obtain ⟨_, -, failed⟩ := Except.bind_eq_ok_iff.mp taken
      nomatch failed

theorem Value.natural_eq_ok {expected : Text} {greatest n : Nat} {value : Value}
    (taken : value.natural expected greatest = .ok n) : value = .integer n := by
  cases value with
  | integer number =>
      rw [natural] at taken
      split at taken
      · rename_i bounds
        cases taken
        rw [Int.toNat_of_nonneg bounds.1]
      · split at taken <;>
          (obtain ⟨_, -, failed⟩ := Except.bind_eq_ok_iff.mp taken; nomatch failed)
  | _ =>
      obtain ⟨_, -, failed⟩ := Except.bind_eq_ok_iff.mp taken
      nomatch failed

/-- The member of a table with a name, or the item of a list at a place. -/
def Value.part? (name : Text) (place : Nat) : Value → Option Value
  | .table _ members => Members.find? name members
  | .list items => items[place]?
  | .tables elements => (elements.map (.table .header))[place]?
  | _ => none

variable {σ : Type} {allowed : Value → Prop} {observe : σ → Option Value}
  {part : Value → Option Value}

/-! ## Fields -/

namespace Field

/-- Settings that have taken up an allowed value for a field show a part of the value, or what they
have shown before if there is no such part. -/
def Shows (allowed : Value → Prop) (observe : σ → Option Value) (field : Field σ)
    (part : Value → Option Value) : Prop :=
  ∀ ⦃settings value after⦄, allowed value → field.set settings value = .ok after →
    observe after = (part value).or (observe settings)

/-- Settings show the same whatever they take up for a field. -/
def Keeps (allowed : Value → Prop) (observe : σ → Option Value) (field : Field σ) : Prop :=
  field.Shows allowed observe fun _ => none

theorem shows_text {name : Text} {set : σ → Text → σ}
    (sets : ∀ settings text,
      observe (set settings text) = (part (.string text)).or (observe settings)) :
    (text name set).Shows allowed observe part := by
  intro settings value after _ taken
  obtain ⟨found, isText, same⟩ := Except.bind_eq_ok_iff.mp taken
  cases same
  rw [Value.text_eq_ok isText]
  exact sets settings found

theorem shows_natural {name expected : Text} {greatest : Nat} {set : σ → Nat → σ}
    (sets : ∀ settings (n : Nat),
      observe (set settings n) = (part (.integer n)).or (observe settings)) :
    (natural name expected greatest set).Shows allowed observe part := by
  intro settings value after _ taken
  obtain ⟨found, isNatural, same⟩ := Except.bind_eq_ok_iff.mp taken
  cases same
  rw [Value.natural_eq_ok isNatural]
  exact sets settings found

/-- One field of a list, with a certain name and at a certain place, shows a part of its value, and
all others show nothing. -/
inductive Holds (allowed : Value → Prop) (observe : σ → Option Value) (name : Text)
    (part : Value → Option Value) : List (Field σ) → Nat → Prop
  | here {field : Field σ} {others : List (Field σ)} (named : field.name = name)
      (shows : field.Shows allowed observe part)
      (keep : ∀ other ∈ others, other.Keeps allowed observe) :
      Holds allowed observe name part (field :: others) 0
  | later {first : Field σ} {others : List (Field σ)} {place : Nat} (named : first.name ≠ name)
      (keeps : first.Keeps allowed observe)
      (holds : Holds allowed observe name part others place) :
      Holds allowed observe name part (first :: others) (place + 1)

namespace Holds

variable {name : Text} {fields : List (Field σ)} {place : Nat}

theorem exists_find? (holds : Holds allowed observe name part fields place) :
    ∃ field, fields.find? (·.name = name) = some field ∧ field.Shows allowed observe part := by
  induction holds with
  | @here field others named shows keep =>
      exact ⟨field, List.find?_cons_of_pos (decide_eq_true named), shows⟩
  | @later first others place named keeps holds induction =>
      obtain ⟨field, found, shows⟩ := induction
      refine ⟨field, ?_, shows⟩
      rw [List.find?_cons_of_neg (by simpa using named), found]

theorem keeps_of_find? (holds : Holds allowed observe name part fields place) {other : Text}
    (different : other ≠ name) {field : Field σ}
    (found : fields.find? (·.name = other) = some field) : field.Keeps allowed observe := by
  have named : field.name = other := by simpa using List.find?_some found
  have member := List.mem_of_find?_eq_some found
  clear found
  induction holds with
  | here own shows keep =>
      rcases List.mem_cons.mp member with rfl | later
      · exact (different (named.symm.trans own)).elim
      · exact keep field later
  | later own keeps holds induction =>
      rcases List.mem_cons.mp member with rfl | later
      · exact keeps
      · exact induction later

end Holds

end Field

/-! ## Records -/

namespace Record

variable {record : Record σ} {settings after : σ} {name : Text} {place : Nat}

theorem takeMember_keeps (keep : ∀ field ∈ record.fields, field.Keeps allowed observe)
    {member : Text × Value} (isAllowed : allowed member.2)
    (taken : record.takeMember settings member = .ok after) :
    observe after = observe settings := by
  rw [takeMember] at taken
  split at taken
  · rename_i field found
    exact keep field (List.mem_of_find?_eq_some found) isAllowed taken
  · obtain ⟨_, -, same⟩ := Except.bind_eq_ok_iff.mp taken
    cases same
    rfl

theorem takeMembers_keeps (keep : ∀ field ∈ record.fields, field.Keeps allowed observe)
    {members : Members} (allAllowed : ∀ member ∈ members, allowed member.2)
    (taken : record.takeMembers settings members = .ok after) :
    observe after = observe settings := by
  induction members generalizing settings with
  | nil =>
      cases taken
      rfl
  | cons member members induction =>
      rw [takeMembers, List.foldlM_cons] at taken
      obtain ⟨between, first, rest⟩ := Except.bind_eq_ok_iff.mp taken
      rw [List.forall_mem_cons] at allAllowed
      rw [induction allAllowed.2 rest, takeMember_keeps keep allAllowed.1 first]

theorem takeMember_shows (holds : Field.Holds allowed observe name part record.fields place)
    {member : Text × Value} (isAllowed : allowed member.2)
    (taken : record.takeMember settings member = .ok after) :
    observe after =
      if member.1 = name then (part member.2).or (observe settings) else observe settings := by
  rw [takeMember] at taken
  split_ifs with own
  · obtain ⟨field, found, shows⟩ := holds.exists_find?
    rw [own, found] at taken
    exact shows isAllowed taken
  · split at taken
    · rename_i field found
      exact holds.keeps_of_find? own found isAllowed taken
    · obtain ⟨_, -, same⟩ := Except.bind_eq_ok_iff.mp taken
      cases same
      rfl

/-- The settings show the only member with the name of the field. -/
theorem takeMembers_shows (holds : Field.Holds allowed observe name part record.fields place)
    {members : Members} (nodup : (members.map Prod.fst).Nodup)
    (allAllowed : ∀ member ∈ members, allowed member.2)
    (taken : record.takeMembers settings members = .ok after) :
    observe after = ((members.find? name).bind part).or (observe settings) := by
  induction members generalizing settings with
  | nil =>
      cases taken
      rfl
  | cons member members induction =>
      rw [takeMembers, List.foldlM_cons] at taken
      obtain ⟨between, first, rest⟩ := Except.bind_eq_ok_iff.mp taken
      rw [List.forall_mem_cons] at allAllowed
      rw [List.map_cons, List.nodup_cons] at nodup
      rw [induction nodup.2 allAllowed.2 rest, takeMember_shows holds allAllowed.1 first,
        Members.find?]
      split_ifs with own
      · rw [Members.find?_eq_none (own ▸ nodup.1)]
        rfl
      · rfl

theorem takeItems_cons (title : Text) (field : Field σ) (fields : List (Field σ)) (settings : σ)
    (item : Value) (items : List Value) :
    Record.takeItems ⟨title, field :: fields⟩ settings (item :: items) =
      field.set settings item >>= fun next => Record.takeItems ⟨title, fields⟩ next items :=
  rfl

theorem takeItems_keeps
    (keep : ∀ field ∈ record.fields, field.Keeps (fun _ => True) observe) {items : List Value}
    (taken : record.takeItems settings items = .ok after) : observe after = observe settings := by
  obtain ⟨title, fields⟩ := record
  induction fields generalizing settings items with
  | nil =>
      cases taken
      rfl
  | cons field fields induction =>
      cases items with
      | nil =>
          cases taken
          rfl
      | cons item items =>
          rw [takeItems_cons] at taken
          obtain ⟨between, first, rest⟩ := Except.bind_eq_ok_iff.mp taken
          obtain ⟨keeps, keep⟩ := List.forall_mem_cons.mp keep
          rw [induction keep rest]
          exact keeps trivial first

/-- The settings show the item at the place of the field. -/
theorem takeItems_shows (holds : Field.Holds (fun _ => True) observe name part record.fields place)
    {items : List Value} (taken : record.takeItems settings items = .ok after) :
    observe after = (items[place]?.bind part).or (observe settings) := by
  obtain ⟨title, fields⟩ := record
  dsimp only at holds
  induction holds generalizing settings items with
  | here named shows keep =>
      cases items with
      | nil =>
          cases taken
          rfl
      | cons item items =>
          rw [takeItems_cons] at taken
          obtain ⟨between, first, rest⟩ := Except.bind_eq_ok_iff.mp taken
          rw [takeItems_keeps keep rest]
          exact shows trivial first
  | later named keeps holds induction =>
      cases items with
      | nil =>
          cases taken
          rfl
      | cons item items =>
          rw [takeItems_cons] at taken
          obtain ⟨between, first, rest⟩ := Except.bind_eq_ok_iff.mp taken
          rw [induction rest, List.getElem?_cons_succ]
          exact congrArg _ (keeps trivial first)

theorem take_keeps (keep : ∀ field ∈ record.fields, field.Keeps (fun _ => True) observe)
    (outer : Text) : (record.field outer).Keeps Value.IsOrderly observe := by
  intro settings value after isOrderly taken
  cases value with
  | table form members => exact takeMembers_keeps keep (fun _ _ => trivial) taken
  | list items => exact takeItems_keeps keep taken
  | tables elements => exact takeItems_keeps keep taken
  | dateTime =>
      cases taken
      rfl
  | _ =>
      obtain ⟨_, -, failed⟩ := Except.bind_eq_ok_iff.mp taken
      nomatch failed

/-- The settings show the part of a record that belongs to one of its fields. -/
theorem take_shows (holds : Field.Holds (fun _ => True) observe name part record.fields place)
    (outer : Text) :
    (record.field outer).Shows Value.IsOrderly observe
      fun value => (value.part? name place).bind part := by
  intro settings value after isOrderly taken
  cases value with
  | table form members =>
      have nodup := (isOrderly form members rfl).sorted.nodup
      exact takeMembers_shows holds nodup (fun _ _ => trivial) taken
  | list items => exact takeItems_shows holds taken
  | tables elements => exact takeItems_shows holds taken
  | dateTime =>
      cases taken
      rfl
  | _ =>
      obtain ⟨_, -, failed⟩ := Except.bind_eq_ok_iff.mp taken
      nomatch failed

end Record

end DocSite.Toml
