import DocSite.Proofs.Config.Loading

/-!
# Which ports a configuration may have

Every number of a port that a configuration file gives is small enough for a port, and so is that of
a configuration that has been loaded, as long as a command gives no greater one.
-/

namespace DocSite

/-! ## Properties that fields keep -/

namespace Toml

variable {σ : Type} {kept : σ → Prop}

theorem Value.natural_le {expected : Text} {greatest n : Nat} {value : Value}
    (taken : value.natural expected greatest = .ok n) : n ≤ greatest := by
  obtain rfl := Value.natural_eq_ok taken
  rw [natural] at taken
  split at taken
  · next bounds => exact Int.ofNat_le.mp bounds.2
  · split at taken <;>
      (obtain ⟨_, -, failed⟩ := Except.bind_eq_ok_iff.mp taken; cases failed)

namespace Field

/-- Settings keep a property whatever they take up for a field. -/
def Preserves (kept : σ → Prop) (field : Field σ) : Prop :=
  ∀ ⦃settings value after⦄, kept settings → field.set settings value = .ok after → kept after

theorem preserves_text {name : Text} {set : σ → Text → σ}
    (keeps : ∀ settings text, kept settings → kept (set settings text)) :
    (text name set).Preserves kept := by
  intro settings value after holds taken
  obtain ⟨found, -, same⟩ := Except.bind_eq_ok_iff.mp taken
  cases same
  exact keeps settings found holds

theorem preserves_natural {name expected : Text} {greatest : Nat} {set : σ → Nat → σ}
    (keeps : ∀ settings n, n ≤ greatest → kept settings → kept (set settings n)) :
    (natural name expected greatest set).Preserves kept := by
  intro settings value after holds taken
  obtain ⟨found, isNatural, same⟩ := Except.bind_eq_ok_iff.mp taken
  cases same
  exact keeps settings found (Value.natural_le isNatural) holds

end Field

namespace Record

variable {record : Record σ} {settings after : σ}
  (keep : ∀ field ∈ record.fields, field.Preserves kept) (holds : kept settings)
include keep holds

theorem takeMembers_preserves {members : Members}
    (taken : record.takeMembers settings members = .ok after) : kept after := by
  refine Except.of_foldlM_eq_ok (fun {before member next} holds step => ?_) members holds taken
  rw [takeMember] at step
  split at step
  · next field found => exact keep field (List.mem_of_find?_eq_some found) holds step
  · obtain ⟨_, -, same⟩ := Except.bind_eq_ok_iff.mp step
    cases same
    exact holds

theorem takeItems_preserves {items : List Value}
    (taken : record.takeItems settings items = .ok after) : kept after := by
  obtain ⟨title, fields⟩ := record
  induction fields generalizing settings items with
  | nil =>
      cases taken
      exact holds
  | cons field fields induction =>
      cases items with
      | nil =>
          cases taken
          exact holds
      | cons item items =>
          rw [takeItems_cons] at taken
          obtain ⟨between, first, rest⟩ := Except.bind_eq_ok_iff.mp taken
          obtain ⟨keeps, keep⟩ := List.forall_mem_cons.mp keep
          exact induction (keeps holds first) keep rest

omit holds in
theorem field_preserves (outer : Text) : (record.field outer).Preserves kept := by
  intro settings value after holds taken
  cases value with
  | table form members => exact takeMembers_preserves keep holds taken
  | list items => exact takeItems_preserves keep holds taken
  | tables elements => exact takeItems_preserves keep holds taken
  | dateTime =>
      cases taken
      exact holds
  | _ =>
      obtain ⟨_, -, failed⟩ := Except.bind_eq_ok_iff.mp taken
      nomatch failed

end Record

end Toml

/-! ## Ports -/

namespace Config

open Toml

/-- The greatest number of a port. -/
def greatestPort : Nat := 65535

/-- A port that is given has a number that a port may have. -/
def Fits (port? : Option Nat) : Prop :=
  ∀ port, port? = some port → port ≤ greatestPort

/-- The port of a layer, if it gives one, has a number that a port may have. -/
def Layer.PortFits (layer : Layer) : Prop :=
  Fits layer.port

theorem fits_getD {port? : Option Nat} {port : Nat} (fits : Fits port?)
    (otherwise : port ≤ greatestPort) : port?.getD port ≤ greatestPort := by
  cases port? with
  | none => exact otherwise
  | some port => exact fits port rfl

/-- No record of a configuration file takes up a number that is too great for a port. -/
theorem FilePart.preserves_record (part : FilePart) :
    ∀ field ∈ part.record.fields, field.Preserves Layer.PortFits := by
  cases part with
  | server =>
      refine List.forall_mem_cons.mpr ⟨Field.preserves_text fun _ _ fits => fits,
        List.forall_mem_singleton.mpr (Field.preserves_natural fun _ n small _ => ?_)⟩
      rintro _ ⟨⟩
      exact small
  | source =>
      refine List.forall_mem_cons.mpr ⟨Field.preserves_text fun _ _ fits => fits, ?_⟩
      refine List.forall_mem_cons.mpr ⟨Field.preserves_text fun _ _ fits => fits, ?_⟩
      refine List.forall_mem_cons.mpr ⟨Field.preserves_text fun _ _ fits => fits, ?_⟩
      refine List.forall_mem_cons.mpr ⟨Field.preserves_natural fun _ _ _ fits => fits, nofun⟩
  | theme =>
      repeat refine List.forall_mem_cons.mpr ⟨Field.preserves_text fun _ _ fits => fits, ?_⟩
      exact nofun

theorem preserves_fileRecord :
    ∀ field ∈ fileRecord.fields, field.Preserves Layer.PortFits := by
  have each (part : FilePart) : (part.record.field part.key).Preserves Layer.PortFits :=
    Record.field_preserves part.preserves_record part.key
  refine List.forall_mem_cons.mpr ⟨each .server, List.forall_mem_cons.mpr ⟨each .source, ?_⟩⟩
  exact List.forall_mem_singleton.mpr (each .theme)

theorem fits_ofText {text : Text} {layer : Layer} (read : Layer.ofText text = .ok layer) :
    layer.PortFits := by
  obtain ⟨document, -, taken⟩ := Except.bind_eq_ok_iff.mp read
  have blank : Layer.PortFits {} := nofun
  exact Record.takeMembers_preserves preserves_fileRecord blank taken

theorem fits_expand {environment : Environment} {layer after : Layer}
    (expanded : layer.expand environment = .ok after) (fits : layer.PortFits) :
    after.PortFits := by
  obtain ⟨host, -, expanded⟩ := Except.bind_eq_ok_iff.mp expanded
  obtain ⟨baseUrl, -, expanded⟩ := Except.bind_eq_ok_iff.mp expanded
  obtain ⟨sidebarUrl, -, expanded⟩ := Except.bind_eq_ok_iff.mp expanded
  cases expanded
  exact fits

theorem port_le_ofFile {surroundings : Surroundings} {path : Text} {config : Config}
    (loads : ofFile surroundings path = .ok config) : config.port ≤ greatestPort := by
  obtain ⟨text, -, loads⟩ := Except.bind_eq_ok_iff.mp loads
  obtain ⟨layer, layered, loads⟩ := Except.bind_eq_ok_iff.mp loads
  obtain ⟨written, ofText, expanded⟩ := Except.bind_eq_ok_iff.mp layered
  obtain ⟨rfl, -⟩ := checked_eq_ok loads
  refine fits_getD (fits_expand (Except.mapError_eq_ok_iff.mp expanded) ?_) (by decide)
  exact fits_ofText (Except.mapError_eq_ok_iff.mp ofText)

theorem port_le_override {config after : Config} {overrides? : Option Overrides}
    (fits : Fits (overrides?.bind Overrides.port)) (small : config.port ≤ greatestPort)
    (overridden : config.override overrides? = .ok after) : after.port ≤ greatestPort := by
  cases overrides? with
  | none =>
      cases overridden
      exact small
  | some overrides =>
      obtain ⟨rfl, -⟩ := checked_eq_ok overridden
      exact fits_getD fits small

/-- A configuration that has been loaded has a number of a port. -/
theorem port_le_of_load {surroundings : Surroundings} {path? : Option Text}
    {overrides? : Option Overrides} {loaded : Loaded}
    (fits : Fits (overrides?.bind Overrides.port))
    (loads : load surroundings path? overrides? = .ok loaded) :
    loaded.config.port ≤ greatestPort := by
  obtain ⟨found?, -, loads⟩ := Except.bind_eq_ok_iff.mp loads
  cases found? with
  | none =>
      obtain ⟨config, overridden, same⟩ := Except.bind_eq_ok_iff.mp loads
      cases same
      exact port_le_override fits (by decide) overridden
  | some file =>
      obtain ⟨base, read, loads⟩ := Except.bind_eq_ok_iff.mp loads
      obtain ⟨config, overridden, same⟩ := Except.bind_eq_ok_iff.mp loads
      cases same
      exact port_le_override fits (port_le_ofFile read) overridden

end Config

end DocSite
