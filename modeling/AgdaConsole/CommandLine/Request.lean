import AgdaConsole.CommandLine.Line

namespace AgdaConsole

/-- What the program is asked to do: run the console, or write a command and perhaps send it. -/
inductive Task
  | repl (settings : List Setting)
  | agda (outer : List Setting) (verb : Verb) (inner : List Setting)
  deriving DecidableEq, Repr

/-- What the arguments of the program ask for. -/
structure Request where
  config : Option String
  verbosity : Nat
  task : Task
  deriving DecidableEq, Repr

namespace Setting

def config? : Setting → Option String
  | .config p => some p
  | _ => none

def agda? : Setting → Option String
  | .agda p => some p
  | _ => none

/-- How often some settings ask for more of the log. -/
def verbosity (settings : List Setting) : Nat := settings.count .verbose

end Setting

namespace Reading

/-- How often more of the log was asked for at the innermost level that asks for it. -/
def verbosity (r : Reading) : Nat :=
  ((r.map fun x => Setting.verbosity x.2).reverse.find? fun n => n ≠ 0).getD 0

def task? : Reading → Option Task
  | [(.program, _), (.repl, settings)] => some (.repl settings)
  | [(.program, _), (.agda, outer), (.agdaVerb verb, inner)] =>
    some (.agda outer verb inner)
  | _ => none

end Reading

def Request.ofWords (words : List String) : Except Refusal Request :=
  match Level.program.read words with
  | .error r => .error r
  | .ok reading =>
    match reading.task? with
    | some task =>
      .ok ⟨Setting.last? Setting.config? reading.settings, reading.verbosity, task⟩
    | none => .error (.commandMissing .program)

end AgdaConsole
