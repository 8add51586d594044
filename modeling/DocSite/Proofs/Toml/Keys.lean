import Mathlib.Data.Char
import Mathlib.Data.List.Lex
import DocSite.Proofs.Except
import DocSite.Toml.Document

/-!
# The keys of tables

The keys of every table in a document are in order, so none of them comes twice, and what is found
under a key is all that the document says about it. Each step of building a document keeps this, at
any depth.
-/

namespace DocSite.Toml

theorem comesBefore_iff (left right : Text) : comesBefore left right = true ↔ left < right := by
  induction left generalizing right with
  | nil => cases right <;> simp [comesBefore]
  | cons a left induction =>
      cases right with
      | nil => simp [comesBefore]
      | cons b right => simp [comesBefore, induction, List.cons_lt_cons_iff]

/-- The keys are in order. -/
def Members.Sorted (members : Members) : Prop :=
  members.Pairwise fun left right => left.1 < right.1

namespace Members

variable {members : Members} {key : Text} {value : Value}

theorem mem_of_find? (found : members.find? key = some value) : (key, value) ∈ members := by
  induction members with
  | nil => nomatch found
  | cons first rest induction =>
      rw [find?] at found
      split at found
      · rename_i same
        cases found
        rw [← same]
        exact List.mem_cons_self
      · exact List.mem_cons_of_mem _ (induction found)

theorem find?_eq_none (absent : key ∉ members.map Prod.fst) : members.find? key = none := by
  induction members with
  | nil => rfl
  | cons first rest induction =>
      rw [List.map_cons, List.mem_cons, not_or] at absent
      rw [find?, if_neg (Ne.symm absent.1), induction absent.2]

theorem mem_put {member : Text × Value} (inside : member ∈ members.put key value) :
    member = (key, value) ∨ member ∈ members := by
  induction members with
  | nil => exact .inl (List.mem_singleton.mp inside)
  | cons first rest induction =>
      rw [put] at inside
      split at inside
      · rcases List.mem_cons.mp inside with same | later
        · exact .inl same
        · exact .inr (List.mem_cons_of_mem _ later)
      · split at inside
        · exact List.mem_cons.mp inside
        · rcases List.mem_cons.mp inside with same | later
          · exact .inr (same ▸ List.mem_cons_self)
          · exact (induction later).imp_right (List.mem_cons_of_mem _)

theorem Sorted.put (whole : members.Sorted) (key : Text) (value : Value) :
    (members.put key value).Sorted := by
  induction members with
  | nil => exact List.pairwise_singleton _ _
  | cons first rest induction =>
      obtain ⟨smallest, sorted⟩ := List.pairwise_cons.mp whole
      rw [Members.put]
      split
      · rename_i same
        exact List.pairwise_cons.mpr ⟨fun member later => same ▸ smallest member later, sorted⟩
      · rename_i other
        split
        · rename_i before
          have before := (comesBefore_iff key first.1).mp before
          refine List.pairwise_cons.mpr ⟨fun member inside => ?_, whole⟩
          rcases List.mem_cons.mp inside with rfl | later
          · exact before
          · exact before.trans (smallest member later)
        · rename_i notBefore
          have before : first.1 < key := by
            refine lt_of_le_of_ne (not_lt.mp fun less => ?_) other
            exact notBefore ((comesBefore_iff key first.1).mpr less)
          refine List.pairwise_cons.mpr ⟨fun member inside => ?_, induction sorted⟩
          rcases mem_put inside with rfl | later
          · exact before
          · exact smallest member later

theorem Sorted.nodup (sorted : members.Sorted) : (members.map Prod.fst).Nodup :=
  List.pairwise_map.mpr (sorted.imp ne_of_lt)

end Members

/-! ## Tables in tables -/

/-- The keys of a table are in order, and so are those of all tables in it. -/
inductive Orderly : Members → Prop
  | intro {members : Members} (sorted : members.Sorted)
      (below : ∀ key form inner, (key, Value.table form inner) ∈ members → Orderly inner) :
      Orderly members

/-- A value is no table, or one whose keys are in order. -/
def Value.IsOrderly (value : Value) : Prop :=
  ∀ form members, value = .table form members → Orderly members

namespace Orderly

variable {members after : Members} {form : TableForm}

theorem sorted (orderly : Orderly members) : members.Sorted := by
  cases orderly with
  | intro sorted below => exact sorted

theorem isOrderly {member : Text × Value} (orderly : Orderly members)
    (inside : member ∈ members) : member.2.IsOrderly := by
  obtain ⟨key, value⟩ := member
  rintro form inner rfl
  cases orderly with
  | intro sorted below => exact below key form inner inside

theorem find? {key : Text} {value : Value} (orderly : Orderly members)
    (found : members.find? key = some value) : value.IsOrderly :=
  orderly.isOrderly (Members.mem_of_find? found)

theorem nil : Orderly [] :=
  intro List.Pairwise.nil fun _ _ _ => nofun

theorem table (orderly : Orderly members) : (Value.table form members).IsOrderly := by
  rintro form inner same
  cases same
  exact orderly

theorem tables (elements : List Members) : (Value.tables elements).IsOrderly :=
  fun _ _ same => nomatch same

theorem put {value : Value} (orderly : Orderly members) (isOrderly : value.IsOrderly)
    (key : Text) : Orderly (members.put key value) := by
  cases orderly with
  | intro sorted below =>
      refine intro (sorted.put key value) fun name form inner member => ?_
      rcases Members.mem_put member with same | old
      · exact isOrderly form inner (congrArg Prod.snd same).symm
      · exact below name form inner old

/-- A change somewhere in a table that keeps the order there keeps it in the whole table. -/
theorem changeAt {step : TableForm} {change : TableForm → Members → Except Fault Members}
    (kept : ∀ {form members after}, Orderly members → change form members = .ok after →
      Orderly after) (path : List Text) :
    ∀ {form members after}, Orderly members →
      Toml.changeAt step change path form members = .ok after → Orderly after := by
  induction path with
  | nil => exact kept
  | cons key path induction =>
      intro form members after orderly changed
      rw [Toml.changeAt] at changed
      split at changed
      · obtain ⟨inner, changedInner, same⟩ := Except.bind_eq_ok_iff.mp changed
        cases same
        exact orderly.put (table (induction nil changedInner)) key
      · rename_i found
        split at changed
        · obtain ⟨inner, changedInner, same⟩ := Except.bind_eq_ok_iff.mp changed
          cases same
          have below := orderly.find? found _ _ rfl
          exact orderly.put (table (induction below changedInner)) key
        · nomatch changed
      · obtain ⟨elements, -, same⟩ := Except.bind_eq_ok_iff.mp changed
        cases same
        exact orderly.put (tables _) key
      · nomatch changed

theorem addMember {path : List Text} {key : Text} {value : Value} (orderly : Orderly members)
    (isOrderly : value.IsOrderly) (added : Toml.addMember path key value form members = .ok after) :
    Orderly after := by
  refine changeAt (fun orderly changed => ?_) path orderly added
  split at changed
  · nomatch changed
  · cases changed
    exact orderly.put isOrderly key

theorem openTable {key : Text} (orderly : Orderly members)
    (opened : Toml.openTable key form members = .ok after) : Orderly after := by
  rw [Toml.openTable] at opened
  split at opened
  · cases opened
    exact orderly.put (table nil) key
  · rename_i found
    cases opened
    exact orderly.put (table (orderly.find? found _ _ rfl)) key
  · nomatch opened

theorem openElement {key : Text} (orderly : Orderly members)
    (opened : Toml.openElement key form members = .ok after) : Orderly after := by
  rw [Toml.openElement] at opened
  split at opened
  · cases opened
    exact orderly.put (tables _) key
  · cases opened
    exact orderly.put (tables _) key
  · nomatch opened

end Orderly

/-! ## What is written -/

theorem isOrderly_valueOfWord {word : Text} {value : Value} (read : valueOfWord word = .ok value) :
    value.IsOrderly := by
  rw [valueOfWord] at read
  split at read
  · cases read
    exact nofun
  · split at read
    · cases read
      exact nofun
    · split at read
      · cases read
        exact nofun
      · cases read
        exact nofun
      · split at read
        · cases read
          exact nofun
        · nomatch read

mutual

theorem isOrderly_valueOf {value : Value} :
    ∀ written, valueOf written = .ok value → value.IsOrderly
  | .word text, read => isOrderly_valueOfWord read
  | .basic body, read => by
      obtain ⟨text, -, same⟩ := Except.bind_eq_ok_iff.mp read
      cases same
      exact nofun
  | .literal body, read => by
      cases read
      exact nofun
  | .basicLines body, read => by
      obtain ⟨text, -, same⟩ := Except.bind_eq_ok_iff.mp read
      cases same
      exact nofun
  | .literalLines body, read => by
      cases read
      exact nofun
  | .list items, read => by
      obtain ⟨values, -, same⟩ := Except.bind_eq_ok_iff.mp read
      cases same
      exact nofun
  | .table written, read => by
      obtain ⟨members, found, same⟩ := Except.bind_eq_ok_iff.mp read
      cases same
      exact Orderly.table (orderly_membersOf written .nil found)

theorem orderly_membersOf {members after : Members} :
    ∀ written, Orderly members → membersOf members written = .ok after → Orderly after
  | [], orderly, read => by
      cases read
      exact orderly
  | (path, written) :: rest, orderly, read => by
      obtain ⟨⟨names, key⟩, -, read⟩ := Except.bind_eq_ok_iff.mp read
      obtain ⟨value, found, read⟩ := Except.bind_eq_ok_iff.mp read
      obtain ⟨between, added, read⟩ := Except.bind_eq_ok_iff.mp read
      have isOrderly := isOrderly_valueOf written found
      exact orderly_membersOf rest (orderly.addMember isOrderly added) read

end

/-! ## Statements -/

theorem Orderly.take {draft after : Draft} {statement : Statement}
    (orderly : Orderly draft.members) (taken : draft.take statement = .ok after) :
    Orderly after.members := by
  cases statement with
  | header path =>
      obtain ⟨⟨names, key⟩, -, taken⟩ := Except.bind_eq_ok_iff.mp taken
      obtain ⟨members, changed, same⟩ := Except.bind_eq_ok_iff.mp taken
      cases same
      exact changeAt openTable names orderly changed
  | listHeader path =>
      obtain ⟨⟨names, key⟩, -, taken⟩ := Except.bind_eq_ok_iff.mp taken
      obtain ⟨members, changed, same⟩ := Except.bind_eq_ok_iff.mp taken
      cases same
      exact changeAt openElement names orderly changed
  | member path written =>
      obtain ⟨⟨names, key⟩, -, taken⟩ := Except.bind_eq_ok_iff.mp taken
      obtain ⟨value, found, taken⟩ := Except.bind_eq_ok_iff.mp taken
      obtain ⟨members, changed, same⟩ := Except.bind_eq_ok_iff.mp taken
      cases same
      have isOrderly := isOrderly_valueOf written found
      exact changeAt (fun orderly added => orderly.addMember isOrderly added) draft.current orderly
        changed

theorem orderly_parse {text : Text} {document : Members} (parsed : parse text = .ok document) :
    Orderly document := by
  rw [parse] at parsed
  split at parsed
  · nomatch parsed
  · obtain ⟨draft, folded, same⟩ := Except.bind_eq_ok_iff.mp parsed
    cases same
    exact Except.of_foldlM_eq_ok Orderly.take _ Orderly.nil folded

end DocSite.Toml
