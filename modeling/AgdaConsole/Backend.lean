import AgdaConsole.OsError
import AgdaConsole.Path

namespace AgdaConsole

/-- How a process ended, as the system reports it: the low seven bits are a signal, the next bit
says whether memory was dumped, and the byte above is the exit code. -/
structure ExitStatus where
  raw : Nat
  deriving DecidableEq, Repr

namespace ExitStatus

/-- The status of a process that ended by itself with a code. -/
def ofCode (code : Nat) : ExitStatus := ⟨code % 256 * 256⟩

def ofSignal (signal : Nat) : ExitStatus := ⟨signal⟩

def isSuccess (s : ExitStatus) : Bool := s.raw == 0

def signalNames : List String :=
  ["SIGHUP", "SIGINT", "SIGQUIT", "SIGILL", "SIGTRAP", "SIGABRT", "SIGBUS", "SIGFPE", "SIGKILL",
    "SIGUSR1", "SIGSEGV", "SIGUSR2", "SIGPIPE", "SIGALRM", "SIGTERM", "SIGSTKFLT", "SIGCHLD",
    "SIGCONT", "SIGSTOP", "SIGTSTP", "SIGTTIN", "SIGTTOU", "SIGURG", "SIGXCPU", "SIGXFSZ",
    "SIGVTALRM", "SIGPROF", "SIGWINCH", "SIGIO", "SIGPWR", "SIGSYS"]

def signalText (n : Nat) : String :=
  match signalNames[n - 1]? with
  | some name => if n = 0 then "0" else toString n ++ " (" ++ name ++ ")"
  | none => toString n

def message (s : ExitStatus) : String :=
  let signal := s.raw % 128
  let byte := s.raw / 256 % 256
  if signal = 0 then "exit status: " ++ toString byte
  else if signal ≠ 127 then
    "signal: " ++ signalText signal ++ (if s.raw / 128 % 2 = 1 then " (core dumped)" else "")
  else if s.raw % 256 = 127 then
    "stopped (not terminated) by signal: " ++ signalText byte
  else if s.raw = 65535 then "continued (WIFCONTINUED)"
  else "unrecognised wait status: " ++ toString s.raw ++ " 0x" ++
    String.ofList (Nat.toDigits 16 s.raw)

end ExitStatus

/-- Why the backend gave no success. -/
inductive BackendError
  | notFound (executable : String)
  | spawn (executable : String) (error : OsError)
  | pipe (executable : String) (error : OsError)
  | failed (executable file : String) (status : ExitStatus)
  deriving DecidableEq, Repr

def BackendError.message : BackendError → String
  | .notFound x => "Backend executable '" ++ x ++ "' not found: cannot find binary path"
  | .spawn x e => "Failed to start '" ++ x ++ "': " ++ e.message
  | .pipe x e => "Failed to send commands to '" ++ x ++ "': " ++ e.message
  | .failed x f s => "'" ++ x ++ "' failed on '" ++ f ++ "' (" ++ s.message ++ ")"

/-- The arguments that every check begins with. -/
def checkFlags : List String := ["--no-main", "--compile"]

/-- The argument that makes the backend read commands from its input. -/
def interactionFlag : String := "--interaction"

/-- Append a path to some paths, unless one of them is the same. -/
def addPath (paths : List String) (path : String) : List String :=
  if paths.any fun p => Path.same p path then paths else paths ++ [path]

/-- All that is needed to start the backend. -/
structure Invocation where
  executable : String
  includes : List String
  workingDir : String
  deriving DecidableEq, Repr

namespace Invocation

/-- Search one more folder for modules, after the others. -/
def addInclude (i : Invocation) (path : String) : Invocation :=
  { i with includes := addPath i.includes path }

/-- Search more folders for modules, after the others. -/
def addIncludes (i : Invocation) (paths : List String) : Invocation :=
  paths.foldl addInclude i

/-- An invocation that searches some folders. -/
def make (executable workingDir : String) (includes : List String) : Invocation :=
  (Invocation.mk executable [] workingDir).addIncludes includes

def includeArgs (i : Invocation) : List String :=
  (i.includes.map fun p => ["--include-path", p]).flatten

def checkArgs (i : Invocation) (file : String) : List String :=
  checkFlags ++ i.includeArgs ++ [file]

def interactionArgs (i : Invocation) : List String := interactionFlag :: i.includeArgs

end Invocation

/-- What a run of the backend shows, how it ends, and whether it takes all of its input before. -/
structure Reply where
  output : String
  status : ExitStatus
  takesInput : Bool := true
  deriving DecidableEq, Repr

/-- A run of the backend: its arguments, the folder it runs in, and the text that is there for it to
read. That is the text of the file to check, or all lines that are written for it, also where it
ends before it has taken them. -/
structure Run where
  args : List String
  folder : String
  input : String
  deriving DecidableEq, Repr

/-- Where the backend is started: the program in the words of messages, and its folder. -/
structure Launch where
  executable : String
  folder : String
  deriving DecidableEq, Repr

/-- The backend as a session sees it: whether it can be started, what it does when it is called,
and which of the calls fail before that. Calls are counted from zero. -/
structure Backend where
  launch : Invocation → Except BackendError Launch
  reply : Nat → Reply
  failure : Nat → Option BackendError := fun _ => none

namespace Backend

/-- Start the backend when it is called for the `n`-th time. -/
def start (b : Backend) (n : Nat) (i : Invocation) : Except BackendError Launch :=
  (b.failure n).elim (b.launch i) .error

/-- The answer to the `n`-th call: the backend starts, and ends with success. -/
def accepts (b : Backend) (n : Nat) (i : Invocation) : Bool :=
  match b.start n i with
  | .error _ => false
  | .ok _ => (b.reply n).status.isSuccess

end Backend

end AgdaConsole
