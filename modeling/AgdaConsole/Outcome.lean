import AgdaConsole.Config.Load
import AgdaConsole.Session

namespace AgdaConsole

/-- Why the program ends without success. -/
inductive ProgramError
  | refusal (refusal : Refusal)
  | config (error : ConfigError)
  | fileMissing
  | line (fault : LineFault)
  | backend (error : BackendError)
  | unsuccessful (executable : String) (status : ExitStatus)
  | session (error : SessionError)
  deriving DecidableEq, Repr

def ProgramError.message : ProgramError → String
  | .refusal r => r.report
  | .config e => e.message
  | .fileMissing => "--file is required"
  | .line f => f.report
  | .backend e => e.message
  | .unsuccessful x s => "'" ++ x ++ "' exited with " ++ s.message
  | .session e => e.message

/-- What the program has done: the events in their order, the disk after them, and how it
ended. -/
structure Outcome where
  log : List Event
  disk : Disk
  result : Except ProgramError Unit

end AgdaConsole
