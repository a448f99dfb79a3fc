/-!
# Where the files are

The files are in a directory of the program's own inside the user's configuration directory, which
the environment names: by `XDG_CONFIG_HOME`, or as `.config` in the home directory.  The file of
the masks may be named by a variable of its own.  An empty variable counts as none.

* `Environment` — the variables that matter.
* `Environment.configDir?`, `masksFile?`, `logsDir?` — the paths.
-/

namespace MaskedInput

/-- A path with a further part behind it; an absolute part replaces the path. -/
def joinPath (base part : String) : String :=
  if part.startsWith "/" || base.isEmpty then part
  else if base.endsWith "/" then base ++ part
  else base ++ "/" ++ part

/-- The variables that say where the files are. -/
structure Environment where
  home : Option String := none
  configHome : Option String := none
  masksFile : Option String := none
  deriving DecidableEq, Repr, Inhabited

namespace Environment

/-- The value of a variable, unless it is empty. -/
def nonempty (value : Option String) : Option String := value.filter (!·.isEmpty)

/-- The directory of the program's files. -/
def configDir? (e : Environment) : Option String :=
  let base := nonempty e.configHome <|> (nonempty e.home).map (joinPath · ".config")
  base.map (joinPath · "textmask")

/-- The file that defines the fields. -/
def masksFile? (e : Environment) : Option String :=
  nonempty e.masksFile <|> e.configDir?.map (joinPath · "masks.yaml")

def logsDir? (e : Environment) : Option String := e.configDir?.map (joinPath · "logs")

end Environment

end MaskedInput
