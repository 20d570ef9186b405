import Prose.Files
import Prose.Host
import Prose.Settings.Expansion

/-!
# Loading settings

The layers from the lowest to the highest are the defaults, the settings file of the user, the
settings file of a directory, and the environment. A settings file may be absent, but one that is
there has to be readable and well-formed. The input path is expanded at the end.
-/

namespace Prose

namespace Environment

/-- The directory of the user's settings, which needs a home directory. -/
def settingsDir? (env : Environment) (home : Option Text) : Option Text := do
  let home ← home
  let base :=
    match (env.lookup "XDG_CONFIG_HOME".toList).filter Path.isAbsolute with
    | some dir => dir
    | none => Path.join home ".config".toList
  return Path.join base "textree".toList

/-- The settings file of the user. -/
def settingsFile? (env : Environment) (home : Option Text) : Option Text :=
  (env.settingsDir? home).map (Path.join · "textree.toml".toList)

end Environment

namespace Settings

/-- The settings file of a directory. -/
def localFile (dir : Text) : Text :=
  Path.join dir ".textree.toml".toList

/-- The settings files that count, the lowest layer first. -/
def sources (env : Environment) (home dir : Option Text) : List Text :=
  (env.settingsFile? home).toList ++ (dir.map localFile).toList

/-- What a settings file specifies; an absent one specifies nothing. -/
def fileOverlay (host : Host) (files : Files) (path : Text) : Except Failure (Option Overlay) :=
  let fault (step : String) (reason : Text) : Except Failure (Option Overlay) :=
    .error (.config (step.toList ++ path ++ ": ".toList ++ reason))
  match files path with
  | none => .ok none
  | some .directory => fault "read " "Is a directory (os error 21)".toList
  | some (.unreadable reason) => fault "read " reason
  | some (.file content) =>
    match Overlay.ofText? content with
    | some o => .ok (some o)
    | none => fault "parse " (host.settingsFault content)

/-- One more settings file over the settings. -/
def addFile (host : Host) (files : Files) (s : Settings) (path : Text) :
    Except Failure Settings := do
  match ← fileOverlay host files path with
  | some o => return s.under o
  | none => return s

/-- The environment over the settings. -/
def addEnvironment (env : Environment) (s : Settings) : Except Failure Settings :=
  s.under <$> env.overlay

/-- The settings of all layers. -/
def load (files : Files) (env : Environment) (dir : Option Text) (host : Host := .builtin) :
    Except Failure Settings := do
  let home := env.home? host.recordedHome
  let s ← (sources env home dir).foldlM (addFile host files) standard
  let s ← addEnvironment env s
  return { s with inputPath := env.expand home s.inputPath }

end Settings

end Prose
