import DocSite.Config.Load
import DocSite.Proofs.Config.Settings

/-!
# Where settings come from

A configuration that has been loaded is in order, and each of its settings comes from just one
place: from the command, or else from the file, or else it is the built-in one. Only what the file
says of the host and the two URLs is expanded.
-/

namespace DocSite.Config

open Toml

/-! ## Origins -/

/-- Whether references to variables are expanded in a setting. -/
def Setting.isExpanded : Setting → Bool
  | host | baseUrl | sidebarUrl => true
  | _ => false

/-- What the value of a setting in a file means. -/
def Setting.meaning? (environment : Environment) (setting : Setting) (written : Value) :
    Option Value :=
  if setting.isExpanded then
    match written with
    | .string text => (Config.expand environment text).toOption.map .string
    | _ => none
  else some written

/-- What a command says about a setting. -/
def Overrides.value? (overrides : Overrides) : Setting → Option Value
  | .host => overrides.host.map .string
  | .port => overrides.port.map .ofNat
  | .baseUrl => overrides.baseUrl.map .string
  | .sidebarUrl => overrides.sidebarUrl.map .string
  | _ => none

/-- What a command says about a setting, if there are settings of a command. -/
def given? (overrides? : Option Overrides) (setting : Setting) : Option Value :=
  overrides?.bind (·.value? setting)

/-- Where the value of a setting comes from. -/
inductive Origin (environment : Environment) (overrides? : Option Overrides) (document : Members)
    (setting : Setting) : Value → Prop
  /-- From the command, as it is given. -/
  | command {value : Value} (given : given? overrides? setting = some value) :
      Origin environment overrides? document setting value
  /-- From the file. -/
  | file {written meaning : Value} (missing : given? overrides? setting = none)
      (found : setting.inFile? document = some written)
      (means : setting.meaning? environment written = some meaning) :
      Origin environment overrides? document setting meaning
  /-- From nowhere else. -/
  | builtIn (missing : given? overrides? setting = none)
      (absent : setting.inFile? document = none) :
      Origin environment overrides? document setting (default.value setting)

/-- What is in the file with a path; without a file, there is nothing. -/
def HasDocument (surroundings : Surroundings) : Option Text → Members → Prop
  | none, document => document = []
  | some path, document =>
    ∃ text, surroundings.files.read surroundings.directory path = .ok text ∧
      parse text = .ok document

/-! ## Expansion -/

theorem map_expandSetting {environment : Environment} {name : Text} {value after : Option Text}
    (expanded : expandSetting environment name value = .ok after) :
    after.map (fun text => some (Value.string text)) =
      value.map fun text => (expand environment text).toOption.map .string := by
  unfold expandSetting at expanded
  split at expanded
  · cases expanded
    rfl
  · split at expanded
    · rename_i result
      cases expanded
      simp [result, Except.toOption]
    · nomatch expanded

theorem value?_expand {environment : Environment} {layer after : Layer}
    (expanded : layer.expand environment = .ok after) (setting : Setting) :
    (after.value? setting).map some =
      (layer.value? setting).map (setting.meaning? environment) := by
  obtain ⟨host, ofHost, expanded⟩ := Except.bind_eq_ok_iff.mp expanded
  obtain ⟨baseUrl, ofBaseUrl, expanded⟩ := Except.bind_eq_ok_iff.mp expanded
  obtain ⟨sidebarUrl, ofSidebarUrl, expanded⟩ := Except.bind_eq_ok_iff.mp expanded
  cases expanded
  cases setting with
  | host =>
      rw [Layer.value?, Layer.value?, Option.map_map, Option.map_map]
      exact map_expandSetting ofHost
  | baseUrl =>
      rw [Layer.value?, Layer.value?, Option.map_map, Option.map_map]
      exact map_expandSetting ofBaseUrl
  | sidebarUrl =>
      rw [Layer.value?, Layer.value?, Option.map_map, Option.map_map]
      exact map_expandSetting ofSidebarUrl
  | _ => rfl

/-! ## Checks -/

theorem defect?_default : default.defect? = none := by
  decide +kernel

theorem checked_eq_ok {config after : Config} (isChecked : config.checked = .ok after) :
    after = config ∧ after.defect? = none := by
  rw [checked] at isChecked
  split at isChecked
  · nomatch isChecked
  · rename_i valid
    cases isChecked
    exact ⟨rfl, valid⟩

theorem value?_layer (overrides : Overrides) (setting : Setting) :
    overrides.layer.value? setting = overrides.value? setting := by
  cases setting <;> rfl

theorem override_eq_ok {config after : Config} {overrides? : Option Overrides}
    (valid : config.defect? = none) (overridden : config.override overrides? = .ok after) :
    after.defect? = none ∧
      ∀ setting, after.value setting = (given? overrides? setting).getD (config.value setting) := by
  cases overrides? with
  | none =>
      cases overridden
      exact ⟨valid, fun setting => rfl⟩
  | some overrides =>
      obtain ⟨rfl, valid⟩ := checked_eq_ok overridden
      refine ⟨valid, fun setting => ?_⟩
      rw [value_withLayer, value?_layer]
      rfl

/-! ## Loading -/

theorem ofFile_eq_ok {surroundings : Surroundings} {path : Text} {config : Config}
    (loads : ofFile surroundings path = .ok config) :
    config.defect? = none ∧ ∃ document, HasDocument surroundings (some path) document ∧
      ∀ setting, Origin surroundings.environment none document setting (config.value setting) := by
  obtain ⟨text, isText, loads⟩ := Except.bind_eq_ok_iff.mp loads
  obtain ⟨layer, layered, loads⟩ := Except.bind_eq_ok_iff.mp loads
  obtain ⟨written, ofText, expanded⟩ := Except.bind_eq_ok_iff.mp layered
  obtain ⟨document, parsed, inFile⟩ := value?_ofText (Except.mapError_eq_ok_iff.mp ofText)
  obtain ⟨rfl, valid⟩ := checked_eq_ok loads
  refine ⟨valid, document, ⟨text, Except.mapError_eq_ok_iff.mp isText, parsed⟩, fun setting => ?_⟩
  have meant := value?_expand (Except.mapError_eq_ok_iff.mp expanded) setting
  rw [inFile setting] at meant
  rw [value_withLayer]
  cases found : setting.inFile? document with
  | none =>
      rw [found, Option.map_none, Option.map_eq_none_iff] at meant
      rw [meant]
      exact .builtIn rfl found
  | some value =>
      rw [found, Option.map_some] at meant
      obtain ⟨meaning, isMeaning, means⟩ := Option.map_eq_some_iff.mp meant
      rw [isMeaning]
      exact .file rfl found means.symm

theorem filePath_eq_ok {surroundings : Surroundings} {path? found? : Option Text}
    (found : filePath surroundings path? = .ok found?) :
    found? = path?.or (nearest? surroundings.files surroundings.directory) := by
  cases path? with
  | none =>
      cases found
      rfl
  | some path =>
      rw [filePath] at found
      split at found
      · cases found
        rfl
      · nomatch found

/-- What a command says about a setting takes the place of what is said elsewhere. -/
theorem Origin.override {environment : Environment} {overrides? : Option Overrides}
    {document : Members} {setting : Setting} {value : Value}
    (origin : Origin environment none document setting value) :
    Origin environment overrides? document setting ((given? overrides? setting).getD value) := by
  cases given : given? overrides? setting with
  | some value => exact .command given
  | none =>
      cases origin with
      | command absurd => nomatch absurd
      | file missing found means => exact .file given found means
      | builtIn missing absent => exact .builtIn given absent

/-- A configuration that has been loaded is in order. Each of its settings is what the command says,
or else what the file says, expanded if it is the host or a URL, or else the built-in one. The file
is the one that was named, or else the nearest one, and there is none only if there is neither. -/
theorem loaded_settings {surroundings : Surroundings} {path? : Option Text}
    {overrides? : Option Overrides} {loaded : Loaded}
    (loads : load surroundings path? overrides? = .ok loaded) :
    loaded.config.defect? = none ∧
    loaded.path = path?.or (nearest? surroundings.files surroundings.directory) ∧
    ∃ document, HasDocument surroundings loaded.path document ∧
      ∀ setting, Origin surroundings.environment overrides? document setting
        (loaded.config.value setting) := by
  obtain ⟨found?, found, loads⟩ := Except.bind_eq_ok_iff.mp loads
  have path := filePath_eq_ok found
  cases found? with
  | none =>
      obtain ⟨config, overridden, same⟩ := Except.bind_eq_ok_iff.mp loads
      cases same
      obtain ⟨valid, values⟩ := override_eq_ok defect?_default overridden
      refine ⟨valid, path, [], rfl, fun setting => ?_⟩
      rw [values]
      exact (Origin.builtIn rfl rfl).override
  | some file =>
      obtain ⟨base, read, loads⟩ := Except.bind_eq_ok_iff.mp loads
      obtain ⟨config, overridden, same⟩ := Except.bind_eq_ok_iff.mp loads
      cases same
      obtain ⟨valid, document, isDocument, origins⟩ := ofFile_eq_ok read
      obtain ⟨valid, values⟩ := override_eq_ok valid overridden
      refine ⟨valid, path, document, isDocument, fun setting => ?_⟩
      rw [values]
      exact (origins setting).override

/-- A file in the directory above the current one, with a reference to a variable, a record in the
form of a list, and a port that the command replaces. -/
theorem loaded_settings_three_origins :
    let text : Text :=
      "server = [\"$\x7bNAME\x7d\", 80]\n".toList ++
        "[source]\nroot_document = \"$\x7bNAME\x7d.md\"\n".toList
    let files : FileSystem := ⟨fun place =>
      if place = [] ∨ place = ["docs".toList] then .directory
      else if place = ["jb.toml".toList] then .file (Text.toUtf8 text)
      else .missing⟩
    let environment : Environment := fun name =>
      if name = "NAME".toList then some "a.test".toList else none
    let surroundings : Surroundings := ⟨files, ["docs".toList], environment⟩
    let overrides : Overrides := { port := some 81 }
    let config : Config :=
      { default with host := "a.test", port := 81, rootDocument := "$\x7bNAME\x7d.md" }
    config.defect? = none ∧ nearest? files ["docs".toList] = some "/jb.toml".toList ∧
      ∃ document, HasDocument surroundings (some "/jb.toml".toList) document ∧
        ∀ setting, Origin environment (some overrides) document setting (config.value setting) := by
  intro text files environment surroundings overrides config
  have loads : load surroundings none (some overrides) =
      .ok { config := config, path := some "/jb.toml".toList } := by
    decide +kernel
  obtain ⟨valid, path, origins⟩ := loaded_settings loads
  exact ⟨valid, path.symm, origins⟩

end DocSite.Config
