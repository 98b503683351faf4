import AgdaConsole.Backend
import AgdaConsole.CommandLine.Line
import AgdaConsole.Disk
import AgdaConsole.Input
import AgdaConsole.Scratch

namespace AgdaConsole

/-- What a session leaves behind: text for the user, a message about an error, a call of the
backend on a text, or a run of the backend. -/
inductive Event
  | shown (text : String)
  | reported (message : String)
  | asked (text : String)
  | ran (run : Run)
  deriving DecidableEq, Repr

namespace Event

def run? : Event → Option Run
  | .ran r => some r
  | _ => none

def runs (log : List Event) : List Run := log.filterMap run?

def asked? : Event → Option String
  | .asked t => some t
  | _ => none

def asks (log : List Event) : List String := log.filterMap asked?

/-- The word that messages about errors start with, in red. -/
def errorMark : String := "\x1b[38;5;9m\x1b[1merror:\x1b[0m "

/-- What the user is shown of a message about an error. -/
def complaint? : Event → Option String
  | .reported m => some (errorMark ++ m)
  | _ => none

def complaints (log : List Event) : List String := log.filterMap complaint?

end Event

/-- The machine that a session runs on: the folder and the home of its user, the place of its
scratch file, the backend, and what a shell command shows. -/
structure Host where
  folder : Place
  home : String
  scratchPath : String
  backend : Backend
  shell : String → String

/-- What one line of input did. -/
inductive Step
  | skipped
  | echoed (text : String)
  | shell
  | cleared
  | reset
  | checked (ok : Bool)
  deriving DecidableEq, Repr

/-- A session: its scratch file, how the backend is started on it, and what has happened. -/
structure Session where
  scratch : Scratch
  invocation : Invocation
  log : List Event
  deriving DecidableEq, Repr

namespace Session

def clearScreen : String := "\x1b[2J\x1b[1;1H"

def note (s : Session) (e : Event) : Session := { s with log := s.log ++ [e] }

/-- Have the backend check the scratch file. A failure is reported. -/
def check (host : Host) (s : Session) : Bool × Session :=
  let n := (Event.asks s.log).length
  let text := s.scratch.disk.getD ""
  let s := s.note (.asked text)
  match host.backend.start n s.invocation with
  | .error e => (false, s.note (.reported e.message))
  | .ok launch =>
    let reply := host.backend.reply n
    let run : Run := ⟨s.invocation.checkArgs s.scratch.path, launch.folder, text⟩
    let s := (s.note (.ran run)).note (.shown reply.output)
    if reply.status.isSuccess then (true, s)
    else
      (false, s.note (.reported
        (BackendError.failed launch.executable s.scratch.path reply.status).message))

/-- Start a session on a scratch file: import the prelude, if there is one, and check once. -/
def start (host : Host) (scratch : Scratch) (invocation : Invocation)
    (prelude : Option String) : Except SessionError Unit × Session :=
  match prelude with
  | none => (.ok (), (Session.mk scratch invocation []).check host |>.2)
  | some p =>
    match scratch.importPrelude host.folder.path p with
    | (.error e, scratch) => (.error e, ⟨scratch, invocation, []⟩)
    | (.ok dir, scratch) =>
      (.ok (), (Session.mk scratch (invocation.addInclude dir) []).check host |>.2)

/-- A line names a protocol command when its first word is the name of one. -/
def namesCommand (line : String) : Bool :=
  match splitWords line with
  | [] => false
  | w :: _ => Verb.names.contains w

/-- What is echoed for a line after a colon, and the message if there is one.
The echo is the envelope that the line asks for, or else the line. A line that asks for none is
complained about only where it names a command. -/
def echo (host : Host) (s : Session) (line : String) : String × Option String :=
  match envelopeOfLine host.folder.path s.scratch.path line with
  | .ok e => (e.encode, none)
  | .error f => (line, if namesCommand line then some f.report else none)

/-- Act on one line of input. Only the scratch file can fail. -/
def dispatch (host : Host) (s : Session) (line : String) : Except SessionError Step × Session :=
  match Input.ofLine line with
  | .nothing => (.ok .skipped, s)
  | .protocol text =>
    let (answer, complaint) := s.echo host text
    let s := complaint.elim s fun m => s.note (.reported m)
    (.ok (.echoed answer), s.note (.shown (answer ++ "\n")))
  | .shell command =>
    (.ok .shell,
      if command.isEmpty then s
      else if hasNul command then
        s.note (.reported (command ++ ": " ++ OsError.nulInData.message))
      else s.note (.shown (host.shell command)))
  | .clear => (.ok .cleared, s.note (.shown clearScreen))
  | .reset =>
    match s.scratch.reset with
    | (.error e, scratch) => (.error e, { s with scratch })
    | (.ok _, scratch) => (.ok .reset, { s with scratch })
  | .source text =>
    match s.scratch.append text with
    | (.error e, scratch) => (.error e, { s with scratch })
    | (.ok _, scratch) =>
      let (ok, s) := { s with scratch }.check host
      (.ok (.checked ok), s)

end Session

end AgdaConsole
