import DocSite.Proofs.Config.Loading

/-!
# Settings that a command replaces

A command replaces settings of a file, but the file is read, expanded and checked before. What it
says about a setting that is replaced has no part in the configuration that comes out; yet a file
that is not in order by itself is refused, even for a setting that is replaced.
-/

namespace DocSite.Config

open Toml

/-! ## Layers without some settings -/

/-- A layer has nothing but its settings. -/
theorem Layer.value?_injective : Function.Injective Layer.value? := by
  intro left right same
  have text {a b : Option Text} (held : a.map Value.string = b.map Value.string) : a = b :=
    Option.map_injective (fun _ _ => Value.string.inj) held
  have natural {a b : Option Nat} (held : a.map Value.ofNat = b.map Value.ofNat) : a = b :=
    Option.map_injective (fun _ _ inner => Int.ofNat.inj (Value.integer.inj inner)) held
  have held := congrFun same
  cases left
  cases right
  rw [Layer.mk.injEq]
  exact ⟨text (held .host), natural (held .port), text (held .baseUrl), text (held .rootDocument),
    text (held .sidebarUrl), natural (held .timeout), text (held .background),
    text (held .foreground), text (held .primary), text (held .secondary), text (held .tertiary),
    text (held .lightBackground), text (held .darkBackground), text (held .headingFont),
    text (held .bodyFont), text (held .codeTheme)⟩

/-- A layer without the settings that a command gives. -/
def Layer.without (layer : Layer) (overrides : Overrides) : Layer :=
  { layer with
    host := if overrides.host.isSome then none else layer.host
    port := if overrides.port.isSome then none else layer.port
    baseUrl := if overrides.baseUrl.isSome then none else layer.baseUrl
    sidebarUrl := if overrides.sidebarUrl.isSome then none else layer.sidebarUrl }

theorem value?_without (layer : Layer) (overrides : Overrides) (setting : Setting) :
    (layer.without overrides).value? setting =
      if (overrides.value? setting).isSome then none else layer.value? setting := by
  cases setting with
  | host | port | baseUrl | sidebarUrl =>
      simp only [Layer.value?, Layer.without, Overrides.value?, Option.isSome_map]
      split_ifs <;> rfl
  | _ => rfl

/-- Two layers differ only in settings that a command gives. -/
def AgreeBut (overrides : Overrides) (left right : Layer) : Prop :=
  ∀ setting, overrides.value? setting = none → left.value? setting = right.value? setting

theorem AgreeBut.without_eq {left right : Layer} {overrides : Overrides}
    (agree : AgreeBut overrides left right) :
    left.without overrides = right.without overrides := by
  apply Layer.value?_injective
  funext setting
  rw [value?_without, value?_without]
  cases given : overrides.value? setting with
  | some value => rfl
  | none => exact agree setting given

theorem agreeBut_port (layer : Layer) (port? : Option Nat) (given : Nat) :
    AgreeBut { port := some given } layer { layer with port := port? } := by
  intro setting absent
  cases setting with
  | port => nomatch absent
  | _ => rfl

theorem expandSetting_hidden {environment : Environment} {name : Text} {value after : Option Text}
    (expanded : expandSetting environment name value = .ok after) {hidden : Prop}
    [Decidable hidden] :
    expandSetting environment name (if hidden then none else value) =
      .ok (if hidden then none else after) := by
  split_ifs
  · rfl
  · exact expanded

theorem expand_without {environment : Environment} {layer after : Layer}
    (expanded : layer.expand environment = .ok after) (overrides : Overrides) :
    (layer.without overrides).expand environment = .ok (after.without overrides) := by
  obtain ⟨host, ofHost, expanded⟩ := Except.bind_eq_ok_iff.mp expanded
  obtain ⟨baseUrl, ofBaseUrl, expanded⟩ := Except.bind_eq_ok_iff.mp expanded
  obtain ⟨sidebarUrl, ofSidebarUrl, expanded⟩ := Except.bind_eq_ok_iff.mp expanded
  cases expanded
  rw [Layer.expand, Layer.without, expandSetting_hidden ofHost, expandSetting_hidden ofBaseUrl,
    expandSetting_hidden ofSidebarUrl]
  rfl

/-- What a layer says about a setting has no part in the result if a command gives it. -/
theorem withLayer_without (config : Config) (layer : Layer) (overrides : Overrides) :
    (config.withLayer (layer.without overrides)).withLayer overrides.layer =
      (config.withLayer layer).withLayer overrides.layer := by
  apply value_injective
  funext setting
  simp only [value_withLayer, value?_layer, value?_without]
  cases overrides.value? setting <;> rfl

/-! ## Outcomes -/

/-- The file that is loaded is read as a layer. -/
def HasLayer (surroundings : Surroundings) (path? : Option Text) (layer : Layer) : Prop :=
  ∃ file text, filePath surroundings path? = .ok (some file) ∧
    surroundings.files.read surroundings.directory file = .ok text ∧ Layer.ofText text = .ok layer

/-- Surroundings with no variables, in which a text is the only file. -/
def withFile (text : Text) : Surroundings where
  files := ⟨fun place =>
    if place = [] then .directory
    else if place = ["jb.toml".toList] then .file (Text.toUtf8 text)
    else .missing⟩
  directory := []
  environment := fun _ => none

/-- What comes of loading, but for the path of the file. -/
def outcome (surroundings : Surroundings) (path? : Option Text) (overrides? : Option Overrides) :
    Except ConfigError Config :=
  (load surroundings path? overrides?).map (·.config)

/-- The configuration of a file by itself. -/
def byItself (environment : Environment) (layer : Layer) : Except ConfigError Config := do
  let expanded ← (layer.expand environment).mapError .missingVariable
  (default.withLayer expanded).checked

/-- The configuration of a file and a command, if nothing is read of what the file says about the
settings that the command gives. -/
def resulting (environment : Environment) (layer : Layer) (overrides : Overrides) :
    Except ConfigError Config := do
  let kept ← ((layer.without overrides).expand environment).mapError .missingVariable
  ((default.withLayer kept).withLayer overrides.layer).checked

theorem ofFile_eq {surroundings : Surroundings} {file text : Text} {layer : Layer}
    (read : surroundings.files.read surroundings.directory file = .ok text)
    (understood : Layer.ofText text = .ok layer) :
    ofFile surroundings file = byItself surroundings.environment layer := by
  have layered : layerOf surroundings.environment text =
      (layer.expand surroundings.environment).mapError .missingVariable := by
    unfold layerOf
    rw [understood]
    rfl
  rw [ofFile, read, byItself, ← layered]
  rfl

theorem outcome_eq {surroundings : Surroundings} {path? : Option Text} {layer : Layer}
    (inFile : HasLayer surroundings path? layer) (overrides? : Option Overrides) :
    outcome surroundings path? overrides? =
      byItself surroundings.environment layer >>= fun config => config.override overrides? := by
  obtain ⟨file, text, found, read, understood⟩ := inFile
  rw [outcome, load, found, Except.ok_bind]
  dsimp only
  rw [ofFile_eq read understood]
  cases byItself surroundings.environment layer with
  | error error => rfl
  | ok config =>
      rw [Except.ok_bind, Except.ok_bind]
      cases config.override overrides? <;> rfl

/-- A file that is in order by itself gives the same with the settings of a command as if nothing
was read of what it says about them. -/
theorem override_byItself {environment : Environment} {layer : Layer} {config : Config}
    (inOrder : byItself environment layer = .ok config) (overrides : Overrides) :
    config.override (some overrides) = resulting environment layer overrides := by
  obtain ⟨after, expanded, isChecked⟩ := Except.bind_eq_ok_iff.mp inOrder
  obtain ⟨rfl, -⟩ := checked_eq_ok isChecked
  have expanded := expand_without (Except.mapError_eq_ok_iff.mp expanded) overrides
  rw [resulting, expanded, override, ← withLayer_without]
  rfl

/-- What a file is refused for by itself, it is refused for with the settings of a command;
otherwise nothing of what it says about these settings matters. -/
theorem outcome_overridden {surroundings : Surroundings} {path? : Option Text} {layer : Layer}
    (inFile : HasLayer surroundings path? layer) (overrides : Overrides) :
    outcome surroundings path? (some overrides) =
      outcome surroundings path? none >>= fun _ =>
        resulting surroundings.environment layer overrides := by
  rw [outcome_eq inFile, outcome_eq inFile]
  cases alone : byItself surroundings.environment layer with
  | error error => rfl
  | ok config => exact override_byItself alone overrides

/-! ## Two files -/

/-- With the settings of a command, two files that differ only in what they say about these settings
come to the same if and only if both are refused for the same reason or not at all without these
settings, or each is refused, if it is, for a reason for which the result is. A file is refused for
what it says by itself, and otherwise only for what is wrong with the result. -/
theorem same_outcome_iff {here there : Surroundings} {path? other? : Option Text}
    {left right : Layer} {overrides : Overrides} (inHere : HasLayer here path? left)
    (inThere : HasLayer there other? right)
    (sameVariables : here.environment = there.environment)
    (agree : AgreeBut overrides left right) :
    (outcome here path? (some overrides) = outcome there other? (some overrides) ↔
      (∀ error, outcome here path? none = .error error ↔
        outcome there other? none = .error error) ∨
      (∀ error, outcome here path? none = .error error →
        resulting here.environment left overrides = .error error) ∧
      (∀ error, outcome there other? none = .error error →
        resulting here.environment left overrides = .error error)) ∧
    ∀ error, outcome here path? (some overrides) = .error error ↔
      outcome here path? none = .error error ∨
      (∃ config, outcome here path? none = .ok config) ∧
        resulting here.environment left overrides = .error error := by
  have same : resulting there.environment right overrides =
      resulting here.environment left overrides := by
    rw [sameVariables, resulting, ← agree.without_eq]
    rfl
  rw [outcome_overridden inHere, outcome_overridden inThere, same]
  refine ⟨Except.bind_const_eq_iff, fun error => ?_⟩
  cases outcome here path? none with
  | error own => simp [Except.error_bind]
  | ok config => simp [Except.ok_bind]

/-- A file with no port and one with a port, and a command that gives another port. -/
theorem same_outcome_iff_absent_port :
    let right : Layer := { port := some 80 }
    let overrides : Overrides := { port := some 9000 }
    HasLayer (withFile "") none {} ∧ HasLayer (withFile "[server]\nport = 80\n") none right ∧
      AgreeBut overrides {} right ∧
      outcome (withFile "") none (some overrides) =
        outcome (withFile "[server]\nport = 80\n") none (some overrides) ∧
      ∀ error, outcome (withFile "") none (some overrides) ≠ .error error := by
  intro right overrides
  have inHere : HasLayer (withFile "") none {} :=
    ⟨"/jb.toml", "", by decide +kernel⟩
  have inThere : HasLayer (withFile "[server]\nport = 80\n") none right :=
    ⟨"/jb.toml", "[server]\nport = 80\n", by decide +kernel⟩
  have agree : AgreeBut overrides {} right := agreeBut_port {} _ 9000
  have accepted : outcome (withFile "") none none = .ok default := by
    decide +kernel
  have otherAccepted : outcome (withFile "[server]\nport = 80\n") none none =
      .ok { default with port := 80 } := by
    decide +kernel
  have result : resulting (withFile "").environment {} overrides =
      .ok { default with port := 9000 } := by
    decide +kernel
  obtain ⟨same_iff, refused_iff⟩ := same_outcome_iff inHere inThere rfl agree
  refine ⟨inHere, inThere, agree, same_iff.mpr (.inl fun error => ?_), fun error refused => ?_⟩
  · rw [accepted, otherAccepted]
    exact ⟨nofun, nofun⟩
  · rcases (refused_iff error).mp refused with own | ⟨-, wrong⟩
    · exact nomatch accepted.symm.trans own
    · exact nomatch result.symm.trans wrong

/-- A port that is not in order is refused, although the command replaces it and the result is in
order. -/
theorem replaced_port_is_checked :
    let left : Layer := { port := some 0 }
    let right : Layer := { port := some 80 }
    let overrides : Overrides := { port := some 9000 }
    HasLayer (withFile "[server]\nport = 0\n") none left ∧
      HasLayer (withFile "[server]\nport = 80\n") none right ∧
      AgreeBut overrides left right ∧
      resulting (fun _ => none) left overrides = .ok { default with port := 9000 } ∧
      outcome (withFile "[server]\nport = 0\n") none (some overrides) =
        .error (.invalid .portZero) ∧
      outcome (withFile "[server]\nport = 80\n") none (some overrides) =
        .ok { default with port := 9000 } := by
  intro left right overrides
  refine ⟨⟨"/jb.toml", "[server]\nport = 0\n", ?_⟩, ⟨"/jb.toml", "[server]\nport = 80\n", ?_⟩,
    agreeBut_port left _ 9000, ?_⟩
  all_goals decide +kernel

end DocSite.Config
