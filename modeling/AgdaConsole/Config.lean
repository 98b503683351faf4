import AgdaConsole.Backend
import AgdaConsole.CommandLine.Setting
import AgdaConsole.History
import AgdaConsole.ModuleName

namespace AgdaConsole

/-- How the backend is started. -/
structure BackendConfig where
  executable : String := "agda"
  includes : List String := []
  workingDir : Option String := none
  deriving DecidableEq, Repr

/-- What the console starts with. -/
structure ReplConfig where
  prelude : Option String := none
  history : Option String := none
  deriving DecidableEq, Repr

structure LoggingConfig where
  level : String := "warn"
  deriving DecidableEq, Repr

structure Config where
  backend : BackendConfig := {}
  repl : ReplConfig := {}
  logging : LoggingConfig := {}
  deriving DecidableEq, Repr

/-- Why a configuration is of no use. -/
inductive ConfigFault
  | noExecutable
  | preludeName (path : String)
  deriving DecidableEq, Repr

def ConfigFault.message : ConfigFault → String
  | .noExecutable => "Config validation failed: Backend executable must not be empty"
  | .preludeName p =>
    "Config validation failed: Prelude '" ++ p ++ "' must end in one of: " ++
      String.intercalate ", " ModuleName.suffixes

namespace Config

/-- Find what makes a configuration useless: no executable, or a prelude that is no Agda file. -/
def validate (c : Config) : Except ConfigFault Unit :=
  if c.backend.executable.isEmpty then .error .noExecutable
  else
    match c.repl.prelude with
    | none => .ok ()
    | some p =>
      if ModuleName.hasSuffix (Path.fileName p) then .ok () else .error (.preludeName p)

/-- A configuration with one setting of the command line, which wins. -/
def set (c : Config) : Setting → Config
  | .prelude p => { c with repl.prelude := some p }
  | .agda p => { c with backend.executable := p }
  | .includePath p => { c with backend.includes := addPath c.backend.includes p }
  | .history p => { c with repl.history := some p }
  | .workingDir p => { c with backend.workingDir := some p }
  | _ => c

/-- A configuration with settings of the command line. Paths to search are added, and all other
settings replace what is there. -/
def apply (c : Config) (settings : List Setting) : Config := settings.foldl set c

def historyPath (c : Config) (home : String) : String :=
  c.repl.history.getD (History.pathIn home)

/-- The invocation of the backend in a folder, unless another one is configured. -/
def invocation (c : Config) (folder : String) : Invocation :=
  .make c.backend.executable (c.backend.workingDir.getD folder) c.backend.includes

end Config

/-- The level of the log, for the number of times that more of it was asked for. -/
def logLevel (asked : Nat) (configured : String) : String :=
  match asked with
  | 0 => configured
  | 1 => "debug"
  | _ => "trace"

end AgdaConsole
