import DocSite.Config.File
import DocSite.Config.Validity
import DocSite.Storage.FileSystem

/-!
# Loading a configuration

The configuration is read from the file that a command names, or else from the nearest one in the
current directory and the directories above it; if there is none, the built-in settings are used. The
settings that a command gives replace those of the file, which must be in order by themselves.
-/

namespace DocSite

open Storage

/-- What a program finds when it starts. -/
structure Surroundings where
  /-- The files. -/
  files : FileSystem
  /-- The place of the current directory. -/
  directory : Place
  /-- The variables of the environment. -/
  environment : Environment

/-- Why there is no configuration. -/
inductive ConfigError
  /-- The file that was named is missing. -/
  | notFound (path : Text)
  /-- The file cannot be read. -/
  | unreadable (cause : FileError)
  /-- The file holds no configuration. -/
  | notUnderstood (fault : Toml.Fault)
  /-- A setting refers to a missing variable. -/
  | missingVariable (missing : Config.MissingVariable)
  /-- A setting is not in order. -/
  | invalid (defect : Config.Defect)
  deriving DecidableEq, Repr

/-- The message of an error. -/
def ConfigError.message : ConfigError → Text
  | notFound path => "Configuration file not found: ".toList ++ path
  | unreadable cause => "I/O error: ".toList ++ cause.message
  | notUnderstood fault => "TOML parse error: ".toList ++ fault.message
  | missingVariable missing =>
    "Environment variable error in ".toList ++ missing.setting ++ ": $\x7b".toList ++
      missing.name ++ "\x7d not set".toList
  | invalid defect => "Configuration error: ".toList ++ defect.message

namespace Config

/-- A configuration and the path of the file that it was read from. -/
structure Loaded where
  /-- The settings. -/
  config : Config
  /-- The path of the file, if there is one. -/
  path : Option Text
  deriving DecidableEq, Repr

/-- The name of configuration files. -/
def fileName : Text := "jb.toml"

/-! ## Finding the file -/

/-- A directory and all directories above it, the nearest first, given the names on the way to it in
reverse. -/
def chainFrom : List Text → List Place
  | [] => [[]]
  | name :: above => (name :: above).reverse :: chainFrom above

/-- A directory and all directories above it, the nearest first. -/
def chain (directory : Place) : List Place :=
  chainFrom directory.reverse

/-- Whether there is a configuration file in a directory. -/
def isFound (files : FileSystem) (place : Place) : Bool :=
  files.isPresent place (pathIn place fileName)

/-- The path of the nearest configuration file. -/
def nearest? (files : FileSystem) (directory : Place) : Option Text :=
  ((chain directory).find? (isFound files)).map (pathIn · fileName)

/-- The path of the file to read, if there is one. A file that is named must be there. -/
def filePath (surroundings : Surroundings) (path? : Option Text) :
    Except ConfigError (Option Text) :=
  match path? with
  | some path =>
    if surroundings.files.isPresent surroundings.directory path then .ok (some path)
    else .error (.notFound path)
  | none => .ok (nearest? surroundings.files surroundings.directory)

/-! ## Reading the file -/

/-- A configuration that is in order. -/
def checked (config : Config) : Except ConfigError Config :=
  match config.defect? with
  | some defect => .error (.invalid defect)
  | none => .ok config

/-- The settings in the text of a file, with their references expanded. -/
def layerOf (environment : Environment) (text : Text) : Except ConfigError Layer := do
  let layer ← (Layer.ofText text).mapError .notUnderstood
  (layer.expand environment).mapError .missingVariable

/-- The configuration in a file. -/
def ofFile (surroundings : Surroundings) (path : Text) : Except ConfigError Config := do
  let text ← (surroundings.files.read surroundings.directory path).mapError .unreadable
  let layer ← layerOf surroundings.environment text
  (default.withLayer layer).checked

/-- The configuration with the settings of a command, if there are any. -/
def override (config : Config) (overrides? : Option Overrides) : Except ConfigError Config :=
  match overrides? with
  | some overrides => (config.withLayer overrides.layer).checked
  | none => .ok config

/-- Loads the configuration. -/
def load (surroundings : Surroundings) (path? : Option Text) (overrides? : Option Overrides) :
    Except ConfigError Loaded := do
  match ← filePath surroundings path? with
  | some path =>
    let config ← ofFile surroundings path
    return { config := ← config.override overrides?, path := some path }
  | none => return { config := ← default.override overrides?, path := none }

end Config

end DocSite
