import Mathlib.Data.List.Forall2
import DocSite.Config.File
import DocSite.Proofs.Toml.Records

/-!
# The settings in a configuration file

Each setting has a name and a place in one record of a configuration file. What is read of a file
has for each setting what the file says about it, and nothing else.
-/

namespace DocSite

/-- A natural number as a value. -/
def Toml.Value.ofNat (n : Nat) : Toml.Value :=
  .integer n

namespace Config

open Toml

/-! ## Settings -/

/-- What can be set. -/
inductive Setting
  | host
  | port
  | baseUrl
  | rootDocument
  | sidebarUrl
  | timeout
  | background
  | foreground
  | primary
  | secondary
  | tertiary
  | lightBackground
  | darkBackground
  | headingFont
  | bodyFont
  | codeTheme
  deriving DecidableEq

/-- The records of a configuration file. -/
inductive FilePart
  | server
  | source
  | theme
  deriving DecidableEq

namespace FilePart

/-- The name of a record in the file. -/
def key : FilePart → Text
  | server => "server"
  | source => "source"
  | theme => "theme"

/-- The settings in a record, in their order. -/
def settings : FilePart → List Setting
  | server => [.host, .port]
  | source => [.baseUrl, .rootDocument, .sidebarUrl, .timeout]
  | theme => [.background, .foreground, .primary, .secondary, .tertiary, .lightBackground,
      .darkBackground, .headingFont, .bodyFont, .codeTheme]

/-- How a record is read. -/
def record : FilePart → Record Layer
  | server => serverRecord
  | source => sourceRecord
  | theme => themeRecord

end FilePart

namespace Setting

/-- The record that a setting is in. -/
def part : Setting → FilePart
  | host | port => .server
  | baseUrl | rootDocument | sidebarUrl | timeout => .source
  | background | foreground | primary | secondary | tertiary | lightBackground | darkBackground
  | headingFont | bodyFont | codeTheme => .theme

/-- The name of a setting in its record. -/
def key : Setting → Text
  | host => "host"
  | port => "port"
  | baseUrl => "base_url"
  | rootDocument => "root_document"
  | sidebarUrl => "sidebar_url"
  | timeout => "timeout_secs"
  | background => "background"
  | foreground => "foreground"
  | primary => "primary"
  | secondary => "secondary"
  | tertiary => "tertiary"
  | lightBackground => "light_background"
  | darkBackground => "dark_background"
  | headingFont => "heading_font"
  | bodyFont => "body_font"
  | codeTheme => "code_theme"

/-- The place of a setting in its record. -/
def place (setting : Setting) : Nat :=
  setting.part.settings.idxOf setting

/-- What a document says about a setting. -/
def inFile? (document : Members) (setting : Setting) : Option Value :=
  (document.find? setting.part.key).bind (·.part? setting.key setting.place)

theorem mem_settings_iff (setting : Setting) (part : FilePart) :
    setting ∈ part.settings ↔ setting.part = part := by
  cases part <;> cases setting <;> decide

end Setting

theorem FilePart.nodup_keys (part : FilePart) : (part.settings.map Setting.key).Nodup := by
  cases part <;> decide

/-! ## Settings and layers -/

/-- What a layer has for a setting. -/
def Layer.value? (layer : Layer) : Setting → Option Value
  | .host => layer.host.map .string
  | .port => layer.port.map .ofNat
  | .baseUrl => layer.baseUrl.map .string
  | .rootDocument => layer.rootDocument.map .string
  | .sidebarUrl => layer.sidebarUrl.map .string
  | .timeout => layer.timeout.map .ofNat
  | .background => layer.background.map .string
  | .foreground => layer.foreground.map .string
  | .primary => layer.primary.map .string
  | .secondary => layer.secondary.map .string
  | .tertiary => layer.tertiary.map .string
  | .lightBackground => layer.lightBackground.map .string
  | .darkBackground => layer.darkBackground.map .string
  | .headingFont => layer.headingFont.map .string
  | .bodyFont => layer.bodyFont.map .string
  | .codeTheme => layer.codeTheme.map .string

/-- What a configuration has for a setting. -/
def value (config : Config) : Setting → Value
  | .host => .string config.host
  | .port => .ofNat config.port
  | .baseUrl => .string config.baseUrl
  | .rootDocument => .string config.rootDocument
  | .sidebarUrl => .string config.sidebarUrl
  | .timeout => .ofNat config.timeout
  | .background => .string config.theme.background
  | .foreground => .string config.theme.foreground
  | .primary => .string config.theme.primary
  | .secondary => .string config.theme.secondary
  | .tertiary => .string config.theme.tertiary
  | .lightBackground => .string config.theme.lightBackground
  | .darkBackground => .string config.theme.darkBackground
  | .headingFont => .string config.theme.headingFont
  | .bodyFont => .string config.theme.bodyFont
  | .codeTheme => .string config.codeTheme

/-- A configuration has nothing but its settings. -/
theorem value_injective : Function.Injective value := by
  rintro ⟨_, _, _, _, _, _, ⟨⟩, _⟩ ⟨_, _, _, _, _, _, ⟨⟩, _⟩ same
  have held := congrFun same
  cases held .host
  cases held .port
  cases held .baseUrl
  cases held .rootDocument
  cases held .sidebarUrl
  cases held .timeout
  cases held .background
  cases held .foreground
  cases held .primary
  cases held .secondary
  cases held .tertiary
  cases held .lightBackground
  cases held .darkBackground
  cases held .headingFont
  cases held .bodyFont
  cases held .codeTheme
  rfl

theorem value_withLayer (config : Config) (layer : Layer) (setting : Setting) :
    (config.withLayer layer).value setting =
      (layer.value? setting).getD (config.value setting) := by
  cases setting <;> simp only [value, Layer.value?, Option.getD_map, withLayer]

/-! ## Fields -/

/-- A field has the name of a setting and sets just that one. -/
def Sets (field : Toml.Field Layer) (setting : Setting) : Prop :=
  field.name = setting.key ∧
    ∀ other, field.Shows (fun _ => True) (·.value? other)
      (if other = setting then some else fun _ => none)

theorem sets_text {name : Text} {set : Layer → Text → Layer} {setting : Setting}
    (named : name = setting.key)
    (sets : ∀ layer text other, (set layer text).value? other =
      ((if other = setting then some else fun _ => none) (.string text)).or
        (layer.value? other)) :
    Sets (.text name set) setting :=
  ⟨named, fun other => Field.shows_text fun layer text => sets layer text other⟩

theorem sets_natural {name expected : Text} {greatest : Nat} {set : Layer → Nat → Layer}
    {setting : Setting} (named : name = setting.key)
    (sets : ∀ layer (n : Nat) other, (set layer n).value? other =
      ((if other = setting then some else fun _ => none) (.ofNat n)).or (layer.value? other)) :
    Sets (.natural name expected greatest set) setting :=
  ⟨named, fun other => Field.shows_natural fun layer n => sets layer n other⟩

theorem sets_serverRecord : List.Forall₂ Sets serverRecord.fields FilePart.server.settings := by
  refine .cons (sets_text rfl ?_) <| .cons (sets_natural rfl ?_) .nil
  all_goals intro layer value other; cases other <;> rfl

theorem sets_sourceRecord : List.Forall₂ Sets sourceRecord.fields FilePart.source.settings := by
  refine .cons (sets_text rfl ?_) <| .cons (sets_text rfl ?_) <| .cons (sets_text rfl ?_) <|
    .cons (sets_natural rfl ?_) .nil
  all_goals intro layer value other; cases other <;> rfl

theorem sets_themeRecord : List.Forall₂ Sets themeRecord.fields FilePart.theme.settings := by
  refine .cons (sets_text rfl ?_) <| .cons (sets_text rfl ?_) <| .cons (sets_text rfl ?_) <|
    .cons (sets_text rfl ?_) <| .cons (sets_text rfl ?_) <| .cons (sets_text rfl ?_) <|
    .cons (sets_text rfl ?_) <| .cons (sets_text rfl ?_) <| .cons (sets_text rfl ?_) <|
    .cons (sets_text rfl ?_) .nil
  all_goals intro layer value other; cases other <;> rfl

theorem FilePart.sets_record (part : FilePart) :
    List.Forall₂ Sets part.record.fields part.settings :=
  match part with
  | server => sets_serverRecord
  | source => sets_sourceRecord
  | theme => sets_themeRecord

section Rows

variable {fields : List (Toml.Field Layer)} {settings : List Setting} {setting : Setting}
  (sets : List.Forall₂ Sets fields settings)
include sets

theorem keeps_of_sets (absent : setting ∉ settings) :
    ∀ field ∈ fields, field.Keeps (fun _ => True) (·.value? setting) := by
  induction sets with
  | nil => exact nofun
  | @cons field first fields settings own sets induction =>
      rw [List.mem_cons, not_or] at absent
      refine List.forall_mem_cons.mpr ⟨?_, induction absent.2⟩
      have shows := own.2 setting
      rw [if_neg absent.1] at shows
      exact shows

theorem holds_of_sets (nodup : (settings.map Setting.key).Nodup) (member : setting ∈ settings) :
    Field.Holds (fun _ => True) (·.value? setting) setting.key some fields
      (settings.idxOf setting) := by
  induction sets with
  | nil => nomatch member
  | @cons field first fields settings own sets induction =>
      rw [List.map_cons, List.nodup_cons] at nodup
      by_cases same : setting = first
      · subst same
        rw [List.idxOf_cons_self]
        have shows := own.2 setting
        rw [if_pos rfl] at shows
        refine .here own.1 shows (keeps_of_sets sets fun later => nodup.1 ?_)
        exact List.mem_map_of_mem later
      · have later := (List.mem_cons.mp member).resolve_left same
        rw [List.idxOf_cons_ne _ (Ne.symm same)]
        have shows := own.2 setting
        rw [if_neg same] at shows
        refine .later (fun named => nodup.1 ?_) shows (induction nodup.2 later)
        rw [← own.1, named]
        exact List.mem_map_of_mem later

end Rows

/-! ## Files -/

theorem FilePart.record_keeps {part : FilePart} {setting : Setting} (other : setting.part ≠ part) :
    (part.record.field part.key).Keeps Value.IsOrderly (·.value? setting) :=
  Record.take_keeps (keeps_of_sets part.sets_record
    fun member => other ((setting.mem_settings_iff part).mp member)) part.key

theorem Setting.record_shows (setting : Setting) :
    (setting.part.record.field setting.part.key).Shows Value.IsOrderly (·.value? setting)
      (·.part? setting.key setting.place) := by
  have holds := holds_of_sets setting.part.sets_record setting.part.nodup_keys
    ((setting.mem_settings_iff _).mpr rfl)
  have shows := Record.take_shows holds setting.part.key
  simp only [Option.bind_fun_some] at shows
  exact shows

theorem Setting.holds_fileRecord (setting : Setting) :
    ∃ place, Field.Holds Value.IsOrderly (·.value? setting) setting.part.key
      (·.part? setting.key setting.place) fileRecord.fields place := by
  have shows := setting.record_shows
  have keeps : ∀ part, setting.part ≠ part →
      (part.record.field part.key).Keeps Value.IsOrderly (·.value? setting) :=
    fun _ => FilePart.record_keeps
  cases part : setting.part with
  | server =>
      rw [part] at shows keeps
      exact ⟨0, .here rfl shows (List.forall_mem_cons.mpr ⟨keeps .source (by decide),
        List.forall_mem_singleton.mpr (keeps .theme (by decide))⟩)⟩
  | source =>
      rw [part] at shows keeps
      exact ⟨1, .later (by decide) (keeps .server (by decide)) (.here rfl shows
        (List.forall_mem_singleton.mpr (keeps .theme (by decide))))⟩
  | theme =>
      rw [part] at shows keeps
      exact ⟨2, .later (by decide) (keeps .server (by decide)) (.later (by decide)
        (keeps .source (by decide)) (.here rfl shows nofun))⟩

theorem value?_ofText {text : Text} {layer : Layer} (read : Layer.ofText text = .ok layer) :
    ∃ document, Toml.parse text = .ok document ∧
      ∀ setting : Setting, layer.value? setting = setting.inFile? document := by
  obtain ⟨document, parsed, taken⟩ := Except.bind_eq_ok_iff.mp read
  refine ⟨document, parsed, fun setting => ?_⟩
  have orderly := orderly_parse parsed
  obtain ⟨place, holds⟩ := setting.holds_fileRecord
  have shown := Record.takeMembers_shows holds orderly.sorted.nodup
    (fun member inside => orderly.isOrderly inside) taken
  have blank : Layer.value? {} setting = none := by cases setting <;> rfl
  rw [shown, blank, Option.or_none, Setting.inFile?]

end Config

end DocSite
