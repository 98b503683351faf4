import AgdaConsole.Console
import AgdaConsole.Interaction

namespace AgdaConsole.Program

/-- What the program does before it begins its task: read its arguments and load the
configuration, which is at `standard` unless another path is given. -/
def prepare (host : Host) (d : Disk) (standard : String) (words : List String) :
    Except ProgramError (Request × Config) :=
  match Request.ofWords words with
  | .error r => .error (.refusal r)
  | .ok request =>
    match Config.load d host.folder (request.config.getD standard) with
    | .error e => .error (.config e)
    | .ok config => .ok (request, config)

/-- The configuration with the settings of the console, if it is of use. -/
def configure (config : Config) (settings : List Setting) : Except ProgramError Config :=
  let c := config.apply settings
  (c.validate.mapError fun f => .config (.useless f)).map fun _ => c

def perform (host : Host) (d : Disk) (config : Config) (task : Task) (input : String) : Outcome :=
  match task with
  | .agda outer verb inner =>
    let (log, result) := Interaction.run host config outer verb inner
    ⟨log, d, result⟩
  | .repl settings =>
    match configure config settings with
    | .error e => ⟨[], d, .error e⟩
    | .ok c => Console.run host c d input

/-- Run the program on its arguments and a text of input. -/
def run (host : Host) (d : Disk) (standard : String) (words : List String) (input : String) :
    Outcome :=
  match prepare host d standard words with
  | .error e => ⟨[], d, .error e⟩
  | .ok (request, config) => perform host d config request.task input

end AgdaConsole.Program
