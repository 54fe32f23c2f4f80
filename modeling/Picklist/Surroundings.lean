import Picklist.Path
import Picklist.Shell.Run

/-!
# Surroundings

What a run of the program sees of the world: the environment, the files, the standard input and the
shell for command lines. From the environment follow the places where settings and logs are kept.
-/

set_option autoImplicit false

namespace Picklist

/-- What a run of the program sees of the world. -/
structure Surroundings where
  environment : List (String × String) := []
  /-- What a file holds, if there is such a file. -/
  fileAt : Path → Option (List UInt8) := fun _ => none
  input : List UInt8 := []
  /-- The shell that runs command lines. -/
  shell : Shell.Runner := Shell.run

namespace Surroundings

/-- The value of a variable, if it is not empty. -/
def valueOf? (s : Surroundings) (name : String) : Option String :=
  (s.environment.lookup name).filter fun value => !value.isEmpty

/-- A directory of the user: the one that a variable names, if that is an absolute path, or else one
in the home directory. -/
def userDirectory? (s : Surroundings) (name fallback : String) : Option Path := do
  let home ← s.valueOf? "HOME"
  let base := (s.valueOf? name).filter Path.isAbsolute
  some (Path.join (base.getD (Path.join home fallback)) "listkit")

/-- The directory with settings. -/
def configDirectory? (s : Surroundings) : Option Path :=
  s.valueOf? "LISTKIT_CONFIG_DIR" <|> s.userDirectory? "XDG_CONFIG_HOME" ".config"

/-- The directory with data. -/
def dataDirectory? (s : Surroundings) : Option Path :=
  s.valueOf? "LISTKIT_DATA_DIR" <|> s.userDirectory? "XDG_DATA_HOME" ".local/share"

/-- The user's file with settings. -/
def configFile? (s : Surroundings) : Option Path :=
  s.configDirectory?.map fun directory => Path.join directory "config.toml"

/-- The directory for logs: without a directory for data it is a temporary one. -/
def logDirectory (s : Surroundings) : Path :=
  let data := s.dataDirectory?.getD (Path.join ((s.valueOf? "TMPDIR").getD "/tmp") "listkit")
  Path.join data "logs"

end Surroundings

end Picklist
