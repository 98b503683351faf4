import AgdaConsole.Config
import AgdaConsole.Toml.Document

namespace AgdaConsole

/-- Why no configuration is loaded: the file cannot be read, its text describes none, or what it
describes is of no use. -/
inductive ConfigError
  | unreadable (path : String)
  | malformed (path : String)
  | useless (fault : ConfigFault)
  deriving DecidableEq, Repr

def ConfigError.message : ConfigError → String
  | .unreadable p => "Failed to read config file '" ++ p ++ "'"
  | .malformed p => "Failed to parse config file '" ++ p ++ "'"
  | .useless f => f.message

namespace Config

open Toml (Value)

def readText : Value → Option String
  | .text s => some s
  | _ => none

def readTexts : Value → Option (List String)
  | .list _ items => items.mapM readText
  | _ => none

/-- The values of the fields of a section, in the order of their names.
A section is a table, or a list of its fields in order, and a moment is a section without fields.
Other entries of a table have no meaning, but their numbers must be ones a reader can hold. -/
def fieldsOf? (names : List String) : Value → Option (List (Option Value))
  | .table _ entries =>
    if Value.allEntriesHeld (entries.filter fun e => !names.contains e.1) then
      some (names.map fun n => entries.lookup n)
    else none
  | .list _ items => some ((List.range names.length).map fun i => items[i]?)
  | .moment _ => some (names.map fun _ => none)
  | _ => none

def readField {α : Type} (read : Value → Option α) (default : α) : Option Value → Option α
  | none => some default
  | some v => read v

def readOptional {α : Type} (read : Value → Option α) : Option Value → Option (Option α)
  | none => some none
  | some v => (read v).map some

def readBackend (v : Value) : Option BackendConfig :=
  match fieldsOf? ["executable", "include_paths", "working_dir"] v with
  | some [executable, includes, workingDir] =>
    match readField readText ({} : BackendConfig).executable executable,
      readField readTexts [] includes, readOptional readText workingDir with
    | some x, some is, some w => some ⟨x, is, w⟩
    | _, _, _ => none
  | _ => none

def readRepl (v : Value) : Option ReplConfig :=
  match fieldsOf? ["prelude", "history"] v with
  | some [prelude, history] =>
    match readOptional readText prelude, readOptional readText history with
    | some p, some h => some ⟨p, h⟩
    | _, _ => none
  | _ => none

def readLogging (v : Value) : Option LoggingConfig :=
  match fieldsOf? ["level"] v with
  | some [level] => (readField readText ({} : LoggingConfig).level level).map .mk
  | _ => none

/-- The configuration that a document describes. -/
def ofDocument? (v : Value) : Option Config :=
  match fieldsOf? ["backend", "repl", "logging"] v with
  | some [backend, repl, logging] =>
    match readField readBackend {} backend, readField readRepl {} repl,
      readField readLogging {} logging with
    | some b, some r, some l => some ⟨b, r, l⟩
    | _, _, _ => none
  | _ => none

def ofText? (s : String) : Option Config := (Toml.read? s.toList).bind ofDocument?

/-- Load the configuration at a path. Where there is nothing, all is as by default. -/
def load (d : Disk) (folder : Place) (path : String) : Except ConfigError Config :=
  match d.find folder path with
  | .error _ => .ok {}
  | .ok .folder | .ok .binary => .error (.unreadable path)
  | .ok (.text t) =>
    match ofText? t with
    | none => .error (.malformed path)
    | some c => (c.validate.mapError .useless).map fun _ => c

end Config

end AgdaConsole
