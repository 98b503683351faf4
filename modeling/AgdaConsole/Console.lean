import AgdaConsole.Outcome
import AgdaConsole.Text.Backspace

namespace AgdaConsole.Console

def banner : String :=
  "\x1b[38;5;13m\x1b[1mRefl ♠\x1b[0m the Agda REPL. Type Agda code, \x60new\x60 to start over, " ++
    "\x60!cmd\x60 for the shell, Ctrl-D to quit.\n"

/-- What asks the user for a line: the name of the folder and a mark. -/
def prompt (folder : Place) : String := "refl★ " ++ folder.getLastD "" ++ " ⟹  "

def ask (host : Host) (s : Session) : Session := s.note (.shown (prompt host.folder))

/-- Keep a line in the history, unless it is blank. -/
def keep (host : Host) (history : String) (d : Disk) (line : String) :
    Except SessionError Disk :=
  if blankText line then .ok d else History.record d host.folder history (trimmed line)

/-- Act on one line: keep it in the history, and let the session have it. -/
def answer (host : Host) (history : String) (s : Session) (d : Disk) (line : String) :
    Except SessionError Unit × Session × Disk :=
  match keep host history d line with
  | .error e => (.error e, s, d)
  | .ok d =>
    match s.dispatch host line with
    | (.error e, s) => (.error e, s, d)
    | (.ok _, s) => (.ok (), s, d)

/-- Ask for lines and act on them in their order, up to the first that fails. After the last one
the scratch file is removed. -/
def steps (host : Host) (history : String) (s : Session) (d : Disk) :
    List String → Except SessionError Unit × Session × Disk
  | [] => ((ask host s).scratch.close, ask host s, d)
  | line :: rest =>
    match answer host history (ask host s) d line with
    | (.error e, s, d) => (.error e, s, d)
    | (.ok _, s, d) => steps host history s d rest

/-- Open the history, which is made if there is none, and read it. -/
def openHistory (host : Host) (history : String) (d : Disk) : Except SessionError Disk :=
  (History.ensure d host.folder history).bind fun d =>
    (History.entries d host.folder history).map fun _ => d

/-- Greet the user and start a session with a scratch file of its own. -/
def start (host : Host) (config : Config) : Except SessionError Unit × Session :=
  let (result, s) :=
    Session.start host (Scratch.create host.scratchPath)
      (config.invocation (Path.folderOf host.scratchPath)) config.repl.prelude
  (result, { s with log := .shown banner :: s.log })

/-- The lines of a text of input, as they are left by the backspaces in them. -/
def lines (input : String) : List String :=
  (Text.linesOf input.toList).map fun l => String.ofList (Text.typed l)

/-- Run the console on a text of input. -/
def run (host : Host) (config : Config) (d : Disk) (input : String) : Outcome :=
  let history := config.historyPath host.home
  match openHistory host history d with
  | .error e => ⟨[], d, .error (.session e)⟩
  | .ok d =>
    match start host config with
    | (.error e, s) => ⟨s.log, d, .error (.session e)⟩
    | (.ok _, s) =>
      let (result, s, d) := steps host history s d (lines input)
      ⟨s.log, d, result.mapError .session⟩

end AgdaConsole.Console
