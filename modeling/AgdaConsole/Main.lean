import AgdaConsole.Program
import AgdaConsole.Shell

namespace AgdaConsole.Terminal

/-- What stands at a path of this machine. -/
def nodeAt (path : String) : IO (Option Node) := do
  if ← ((← IO.currentDir) / path).isDir then return some .folder
  match ← (IO.FS.readBinFile path).toBaseIO with
  | .ok data => return some ((String.fromUTF8? data).elim .binary .text)
  | .error _ => return none

/-- Look at the places that the parts of a path lead through. -/
def look (d : Disk) (p : Place) : List Path.Part → IO Disk
  | [] => return d
  | .up :: rest => look d p.dropLast rest
  | .name n :: rest => do
    let q := p ++ [String.ofList n]
    match ← nodeAt q.path with
    | some node => look (d.put q node) q rest
    | none => look d q rest
  | _ :: rest => look d p rest

/-- Look at the places that a path of the user leads through. -/
def visit (host : Host) (d : Disk) (path : String) : IO Disk := do
  let d ← look d [] (Path.body host.folder.path.toList)
  look d (if Path.isAbsolute path.toList then [] else host.folder) (Path.body path.toList)

def save (host : Host) (history : String) (old new : Disk) : IO Unit := do
  match new.locate host.folder history with
  | .error _ => return ()
  | .ok p =>
    match new.node? p with
    | some (.text t) => if new.node? p ≠ old.node? p then IO.FS.writeFile p.path t
    | _ => return ()

def showEvents (log : List Event) : IO Unit := do
  for e in log do
    match e with
    | .shown t => IO.print t
    | .reported _ | .asked _ | .ran _ => e.complaint?.forM IO.eprintln
  (← IO.getStdout).flush

/-- Show what a session has done since another state of it. -/
def showSince (old new : Session) : IO Unit := showEvents (new.log.drop old.log.length)

/-- Say how the program ended, and give the code of that. -/
def finish (result : Except ProgramError Unit) : IO UInt32 := do
  match result with
  | .ok _ => return 0
  | .error (.refusal (.helpAsked v)) =>
    IO.println (Refusal.helpAsked v).message
    return 0
  | .error (.refusal .versionAsked) =>
    IO.println Refusal.versionAsked.message
    return 0
  | .error (.refusal r) =>
    IO.eprintln r.message
    return 2
  | .error e =>
    IO.eprintln ("Error: " ++ e.message)
    return 1

/-- Ask for lines and act on them until the input ends or the session does. -/
partial def converse (host : Host) (history : String) (s : Session) (d : Disk) :
    IO (Except SessionError Unit) := do
  let asked := Console.ask host s
  showSince s asked
  let text ← (← IO.getStdin).getLine
  if text.isEmpty then return asked.scratch.close
  let (result, answered, e) := Console.answer host history asked d ((Console.lines text).headD "")
  showSince asked answered
  save host history d e
  match result with
  | .error fault => return .error fault
  | .ok _ => converse host history answered e

def runConsole (host : Host) (d : Disk) (config : Config) : IO (Except ProgramError Unit) := do
  let history := config.historyPath host.home
  let d ← visit host d history
  match Console.openHistory host history d with
  | .error e => return .error (.session e)
  | .ok opened =>
    save host history d opened
    let (result, s) := Console.start host config
    showEvents s.log
    match result with
    | .error e => return .error (.session e)
    | .ok _ => return (← converse host history s opened).mapError .session

def randomName (count : Nat) : IO String := do
  let letters ← (List.range count).mapM fun _ => do
    return Char.ofNat ('A'.toNat + (← IO.rand 0 25))
  return String.ofList letters

/-- This machine. It starts no processes, so that the backend fails to start and the shell has
its simple commands only. -/
def thisHost : IO Host := do
  let folder := Place.ofPath (← IO.currentDir).toString
  let home := (← IO.getEnv "HOME").getD "."
  let temporary := "/tmp/refl-session" ++ (← randomName 6)
  let scratchPath := temporary ++ "/refl" ++ (← randomName 8) ++ ".agda"
  let launch (i : Invocation) : Except BackendError Launch :=
    .error (.spawn i.executable .noSuchCall)
  return ⟨folder, home, scratchPath, { launch, reply := fun _ => ⟨"", .ofCode 0, true⟩ }, Shell.output⟩

/-- The path of the configuration of a user. -/
def standardConfig (home : String) : IO String := do
  let folder := (← IO.getEnv "XDG_CONFIG_HOME").getD (home ++ "/.config")
  return folder ++ "/refl/config.toml"

def run (args : List String) : IO (Except ProgramError Unit) := do
  let host ← thisHost
  let standard ← standardConfig host.home
  match Request.ofWords args with
  | .error r => return .error (.refusal r)
  | .ok request =>
    let d ← visit host ⟨[]⟩ (request.config.getD standard)
    match Program.prepare host d standard args with
    | .error e => return .error e
    | .ok (request, config) =>
      match request.task with
      | .agda outer verb inner =>
        let (log, result) := Interaction.run host config outer verb inner
        showEvents log
        return result
      | .repl settings =>
        match Program.configure config settings with
        | .error e => return .error e
        | .ok config => runConsole host d config

end AgdaConsole.Terminal

def main (args : List String) : IO UInt32 := do
  AgdaConsole.Terminal.finish (← AgdaConsole.Terminal.run args)
