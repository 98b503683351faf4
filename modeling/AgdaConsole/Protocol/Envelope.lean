import AgdaConsole.Protocol.Command

namespace AgdaConsole

/-- Why no envelope is made: it has no file, or the command lacks what it demands. -/
inductive EnvelopeFault
  | noFile
  | noTarget (verb : Verb)
  | noExpression (verb : Verb)
  deriving DecidableEq, Repr

def EnvelopeFault.message : EnvelopeFault → String
  | .noFile => "IOTCM envelope needs a file path"
  | .noTarget v => v.name ++ ": needs a range (--where) or an expression (--expr)"
  | .noExpression v => v.name ++ ": expression must not be empty"

/-- A command addressed to a file. Both are as the backend can use them. -/
structure Envelope where
  file : String
  command : Command
  file_named : blankText file = false
  command_met : command.isMet = true

namespace Envelope

/-- Address a command to a file, unless the file is blank or the command lacks what it
demands. A blank file is found first. -/
def make (file : String) (command : Command) : Except EnvelopeFault Envelope :=
  if hf : blankText file = false then
    if hc : command.isMet = true then .ok ⟨file, command, hf, hc⟩
    else if command.verb.demand = .target then .error (.noTarget command.verb)
    else .error (.noExpression command.verb)
  else .error .noFile

/-- The characters of the line that carries an envelope. -/
def wire (e : Envelope) : List Char :=
  "IOTCM ".toList ++ Text.literal e.file.toList ++ [' '] ++
    e.command.verb.feedback.name.toList ++ " Indirect (Cmd_".toList ++
    e.command.verb.name.toList ++ e.command.arguments.wire e.file ++ [')']

/-- The line that carries an envelope to the backend. -/
def encode (e : Envelope) : String := String.ofList e.wire

/-- The command that loads the file of an envelope without options. -/
def loadCommand : Command := .choose .load {}

/-- The envelopes sent for one envelope: the file is loaded first, unless loading is what is
asked for. -/
def loadedFirst (e : Envelope) : List Envelope :=
  if e.command.verb = .load then [e]
  else [⟨e.file, loadCommand, e.file_named, rfl⟩, e]

end Envelope

end AgdaConsole
