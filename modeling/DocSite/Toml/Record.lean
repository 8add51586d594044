import DocSite.Toml.Document

/-!
# Records in TOML

A record has named fields, each of which sets a part of some settings. It may be written as a table,
whose members are taken up in the order of their keys, or as a list with the values of the fields in
their own order. Members with other names are passed over.
-/

namespace DocSite.Toml

/-! ## Single values -/

/-- The text that a value is. -/
def Value.text : Value → Except Fault Text
  | string text => .ok text
  | value => value.refuse "a string"

/-- The natural number up to `greatest` that a value is. -/
def Value.natural (expected : Text) (greatest : Nat) : Value → Except Fault Nat
  | integer number =>
    if 0 ≤ number ∧ number ≤ greatest then .ok number.toNat
    else if -powerOfTwo 63 ≤ number ∧ number < powerOfTwo 64 then do
      throw (.wrongValue (← integerDescription number) expected)
    else (integer number).refuse expected
  | value => value.refuse expected

mutual

/-- Passes over a value; its numbers must not be too large. -/
def Value.passOver : Value → Except Fault Unit
  | .integer number => do
    let _ ← integerDescription number
  | .fraction .tooLarge => .error .numberTooLarge
  | .list items => passOverItems items
  | .tables elements => passOverElements elements
  | .table _ members => passOverMembers members
  | .string _ | .fraction _ | .boolean _ | .dateTime => .ok ()

/-- Passes over the items of a list. -/
def passOverItems : List Value → Except Fault Unit
  | [] => .ok ()
  | item :: rest => do
    item.passOver
    passOverItems rest

/-- Passes over the elements of a list of tables. -/
def passOverElements : List (List (Text × Value)) → Except Fault Unit
  | [] => .ok ()
  | members :: rest => do
    passOverMembers members
    passOverElements rest

/-- Passes over the members of a table. -/
def passOverMembers : List (Text × Value) → Except Fault Unit
  | [] => .ok ()
  | (_, value) :: rest => do
    value.passOver
    passOverMembers rest

end

/-! ## Records -/

/-- A field: its name and how its value changes the settings. -/
structure Field (σ : Type) where
  /-- The key of the field. -/
  name : Text
  /-- The settings with the value of the field. -/
  set : σ → Value → Except Fault σ

namespace Field

/-- A field that holds a text. -/
def text {σ : Type} (name : Text) (set : σ → Text → σ) : Field σ where
  name := name
  set settings value := do return set settings (← value.text)

/-- A field that holds a natural number. -/
def natural {σ : Type} (name expected : Text) (greatest : Nat) (set : σ → Nat → σ) : Field σ where
  name := name
  set settings value := do return set settings (← value.natural expected greatest)

end Field

/-- A record: its name in messages and its fields. -/
structure Record (σ : Type) where
  /-- The name of the record. -/
  name : Text
  /-- The fields in their order. -/
  fields : List (Field σ)

namespace Record

variable {σ : Type}

/-- Takes up one member of a table. -/
def takeMember (record : Record σ) (settings : σ) (member : Text × Value) : Except Fault σ :=
  match record.fields.find? (·.name = member.1) with
  | some field => field.set settings member.2
  | none => do
    member.2.passOver
    return settings

/-- Takes up the members of a table. -/
def takeMembers (record : Record σ) (settings : σ) (members : Members) : Except Fault σ :=
  members.foldlM record.takeMember settings

/-- Takes up the items of a list as the values of the first fields. -/
def takeItems (record : Record σ) (settings : σ) (items : List Value) : Except Fault σ :=
  (record.fields.zip items).foldlM (fun settings (field, item) => field.set settings item) settings

/-- Takes up a value that is a record. A date is one without fields. -/
def take (record : Record σ) (settings : σ) : Value → Except Fault σ
  | .table _ members => record.takeMembers settings members
  | .list items => record.takeItems settings items
  | .tables elements => record.takeItems settings (elements.map (.table .header))
  | .dateTime => .ok settings
  | value => value.refuse record.name

/-- The field that holds a record. -/
def field (record : Record σ) (name : Text) : Field σ where
  name := name
  set := record.take

end Record

end DocSite.Toml
