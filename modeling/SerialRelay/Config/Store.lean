import SerialRelay.Config.Decode
import SerialRelay.Config.Encode
import SerialRelay.Config.Environment
import SerialRelay.Files
import SerialRelay.Toml.Reader

/-!
# Loading and saving configurations

A configuration comes from a file that is named, from the first of the usual files that exists, or
from the defaults; environment variables override it, and then it is checked.

* `Config.path?`: the usual file.
* `Config.load`, `Config.loadFrom`, `Config.withDefaults`: the three ways to a configuration.
* `Config.save`: a configuration into a file.
-/

namespace SerialRelay

/-- A configuration, and the file that it comes from. -/
structure LoadedConfig where
  path : Option String := none
  config : Config := {}
  deriving DecidableEq, Repr

/-- A path below a directory. -/
def joinPath (base name : String) : String :=
  if base.isEmpty || base.toList.getLast? = some '/' then base ++ name else base ++ "/" ++ name

namespace Config

/-- The file in the current directory. -/
def localFile : String := "serial-writer.toml"

/-- **The file of a user**, whether or not it exists. -/
def userFile? (env : Environment) : Option String :=
  let directory :=
    (env.get? "XDG_CONFIG_HOME") <|> ((env.get? "HOME").map fun home => joinPath home ".config")
  directory.map fun d => joinPath (joinPath d "serial-writer") "config.toml"

/-- The files that may hold the configuration, the first that exists before the others. -/
def candidates (env : Environment) : List String :=
  (env.get? "SERIAL_WRITER_CONFIG").toList ++ localFile :: (userFile? env).toList

/-- **The usual file**: the first candidate that exists. -/
def path? (env : Environment) (fs : Files) : Option String := (candidates env).find? fs.exists?

/-- The configuration in a file, as it is written there. -/
def readFile (fs : Files) (path : String) : Except ConfigError Config :=
  match fs.read path with
  | .error e => .error (.io .read path e)
  | .ok content =>
    match Text.ofUtf8? content with
    | none => .error (.io .read path ⟨.invalidData, .plain⟩)
    | some text =>
      match (Toml.parse text).bind Config.ofToml? with
      | none => .error .unreadable
      | some c => .ok c

/-- A configuration with its overrides, if it can be used. -/
def finish (env : Environment) (c : Config) : Except ConfigError Config :=
  match env.apply c with
  | .error e => .error e
  | .ok c =>
    match c.validate with
    | .error e => .error e
    | .ok () => .ok c

/-- The configuration of a file, with its overrides and checked. -/
def loadFile (env : Environment) (fs : Files) (path : String) :
    Except ConfigError LoadedConfig :=
  match readFile fs path with
  | .error e => .error e
  | .ok c => (c.finish env).map (⟨some path, ·⟩)

/-- **The configuration of the usual file**, or the defaults. -/
def load (env : Environment) (fs : Files) : Except ConfigError LoadedConfig :=
  match path? env fs with
  | some path => loadFile env fs path
  | none => (finish env {}).map (⟨none, ·⟩)

/-- **The configuration of a named file**. -/
def loadFrom (env : Environment) (fs : Files) (path : String) :
    Except ConfigError LoadedConfig :=
  if fs.exists? path then loadFile env fs path else .error (.notFound path)

/-- **The defaults with their overrides**, or without any if one cannot be read. -/
def withDefaults (env : Environment) : LoadedConfig :=
  match env.apply {} with
  | .ok c => ⟨none, c⟩
  | .error _ => {}

/-- **Saves a configuration**: makes the directories, writes the document, puts it into the file.
The files come back as they are after that, also if it fails. -/
def save (c : Config) (fs : Files) (path : String) : Files × Except ConfigError Unit :=
  match fs.makeParents path with
  | (fs, false) => (fs, .error (.io .create path ⟨.other, .plain⟩))
  | (fs, true) =>
    match c.toToml? with
    | none => (fs, .error .unwritable)
    | some document =>
      match fs.write path (Text.utf8 document) with
      | none => (fs, .error (.io .write path ⟨.other, .plain⟩))
      | some fs => (fs, .ok ())

end Config

end SerialRelay
