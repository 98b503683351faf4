import AgdaConsole.CommandLine.Request
import AgdaConsole.Outcome

namespace AgdaConsole.Interaction

/-- What is written for the backend: each envelope on a line. -/
def input (envelopes : List Envelope) : String :=
  String.join (envelopes.map fun e => e.encode ++ "\n")

/-- Start the backend and write some envelopes for it. A backend that does not take them all makes
this fail. -/
def send (host : Host) (invocation : Invocation) (envelopes : List Envelope) :
    List Event × Except BackendError ExitStatus :=
  match host.backend.start 0 invocation with
  | .error e => ([], .error e)
  | .ok launch =>
    let reply := host.backend.reply 0
    let run : Run := ⟨invocation.interactionArgs, launch.folder, input envelopes⟩
    ([.ran run, .shown reply.output],
      if reply.takesInput then .ok reply.status
      else .error (.pipe launch.executable .brokenPipe))

/-- The envelope that is asked for. A file must be given. -/
def envelope (host : Host) (outer : List Setting) (verb : Verb) (inner : List Setting) :
    Except ProgramError Envelope :=
  match Setting.last? Setting.file? (outer ++ inner) with
  | none => .error .fileMissing
  | some file => (envelopeFor host.folder.path file verb inner).mapError .line

def invocation (host : Host) (config : Config) (settings : List Setting) : Invocation :=
  let executable := (Setting.last? Setting.agda? settings).getD config.backend.executable
  { config.invocation host.folder.path with executable }

/-- Show the envelope of a command, and send it if that is asked for. The settings that hold for
all commands stand before the command or among its own. -/
def run (host : Host) (config : Config) (outer : List Setting) (verb : Verb)
    (inner : List Setting) : List Event × Except ProgramError Unit :=
  match envelope host outer verb inner with
  | .error e => ([], .error e)
  | .ok e =>
    let shown := Event.shown (e.encode ++ "\n")
    if (outer ++ inner).contains .exec then
      let i := invocation host config (outer ++ inner)
      match send host i e.loadedFirst with
      | (log, .error b) => (shown :: log, .error (.backend b))
      | (log, .ok status) =>
        (shown :: log,
          if status.isSuccess then .ok () else .error (.unsuccessful i.executable status))
    else ([shown], .ok ())

end AgdaConsole.Interaction
