import AgdaConsole.OsError
import AgdaConsole.Path

namespace AgdaConsole

/-- Why a session ends before its input does. -/
inductive SessionError
  | writeScratch (path : String) (error : OsError)
  | removeScratch (path : String) (error : OsError)
  | prelude (path : String)
  | history (path : String) (error : OsError)
  deriving DecidableEq, Repr

def SessionError.message : SessionError → String
  | .writeScratch p e => "Failed to write scratch file '" ++ p ++ "': " ++ e.message
  | .removeScratch p e =>
    "Failed to write scratch file '" ++ p ++ "': " ++ e.message ++ " at path \"" ++ p ++ "\""
  | .prelude p =>
    "Failed to resolve prelude directory for '" ++ p ++ "': " ++ Path.emptyPathMessage
  | .history p e => "Failed to access history file '" ++ p ++ "': " ++ e.message

end AgdaConsole
