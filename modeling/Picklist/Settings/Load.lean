import Picklist.Settings.Effective
import Picklist.Settings.Environment
import Picklist.Surroundings

/-!
# Loading settings

The sources of settings are, in this order: the user's file, two files in the current directory, the
files that the command line names, the environment, and the command line itself. Files of the first
kinds may be missing; all others must be there, and every file that is there must be sound.
-/

set_option autoImplicit false

namespace Picklist.Settings

open CommandLine (Arguments)

/-- The files with settings in the current directory. -/
def localFiles : List Path := [".listkit.toml", "listkit.toml"]

/-- The files with settings that are read without being asked for. -/
def usualFiles (s : Surroundings) : List Path := s.configFile?.toList ++ localFiles

/-- The names under which a file with settings is looked for when there is none of the given
name. -/
def completedNames (path : Path) : List (Path × FileFormat) :=
  fileFormats.map fun format => (path ++ "." ++ format.ending, format)

/-- The format that the name of a file stands for. -/
def formatOf? (path : Path) : Option FileFormat :=
  fileFormats.find? fun format => path.extension? == some format.ending

/-- Finds a file with settings: its format, if that is known, and what it holds. -/
def findFile (s : Surroundings) (path : Path) : Option (Option FileFormat × List UInt8) :=
  match s.fileAt path with
  | some bytes => some (formatOf? path, bytes)
  | none => (completedNames path).findSome? fun (name, format) =>
      (s.fileAt name).map fun bytes => (some format, bytes)

/-- The names of all files that may be looked for. -/
def candidateFiles (s : Surroundings) (a : Arguments) : List Path :=
  (usualFiles s ++ a.config).flatMap fun path => path :: (completedNames path).map Prod.fst

/-- The settings in a file. -/
def loadFile (s : Surroundings) (required : Bool) (path : Path) : Except SettingsError Entries :=
  match findFile s path with
  | some (some format, bytes) =>
    match readEntries? format bytes with
    | some entries => .ok entries
    | none => .error .unreadable
  | some (none, _) => if required then .error .unreadable else .ok []
  | none => if required then .error .unreadable else .ok []

/-- The settings of all sources but the command line, source by source. -/
def sources (s : Surroundings) (a : Arguments) : Except SettingsError (List Entries) := do
  let usual ← (if a.noConfig then [] else usualFiles s).mapM (loadFile s false)
  let named ← a.config.mapM (loadFile s true)
  .ok (usual ++ named ++ [ofVariables s.environment])

/-- The settings that are in force. -/
def load (s : Surroundings) (a : Arguments) : Except SettingsError Effective := do
  let all ← sources s a
  let merged := all.foldl mergeSource (.table [])
  match sections? merged.entries with
  | some sections => (sections.withArguments a).resolve
  | none => .error .wrongKind

end Picklist.Settings
