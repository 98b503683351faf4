import AgdaConsole.CommandLine.Flag
import AgdaConsole.Text.Plain

namespace AgdaConsole

/-- The places of the grammar at which words are read.
`line` and `lineVerb` are for a line after a colon, the others for the program's arguments. -/
inductive Level
  | line
  | lineVerb (verb : Verb)
  | program
  | repl
  | agda
  | agdaVerb (verb : Verb)
  deriving DecidableEq, Repr

/-- Why a value of a flag is refused. -/
inductive ValueFault
  | spelling (unknown : UnknownSpelling)
  | numeral (fault : NumeralFault)
  | outside (number : Int)
  deriving DecidableEq, Repr

def ValueFault.message : ValueFault → String
  | .spelling u => u.message
  | .numeral f => f.message
  | .outside n => toString n ++ " is not in 0..=4294967295"

/-- Why words are refused, or what was asked for instead of a command. -/
inductive Refusal
  | unexpected (word : String)
  | unknownCommand (word : String)
  | valueMissing (flag : Flag)
  | badValue (flag : Flag) (value : String) (fault : ValueFault)
  | repeated (flag : Flag)
  | needlessValue (flag : Flag) (value : String)
  | commandMissing (level : Level)
  | wordsMissing
  | helpAsked (verb : Option Verb)
  | versionAsked
  deriving DecidableEq, Repr

def Level.title : Level → String
  | .line => ":"
  | .lineVerb v => ": " ++ v.name
  | .program => "refl"
  | .repl => "refl repl"
  | .agda => "refl agda"
  | .agdaVerb v => "refl agda " ++ v.name

namespace Refusal

/-- What a refusal says. Words of the user are shown without control characters.
Help and version are named only, except that help on a command begins with what it does. -/
def message : Refusal → String
  | .unexpected w => "error: unexpected argument '" ++ plainText w ++ "' found"
  | .unknownCommand w => "error: unrecognized subcommand '" ++ plainText w ++ "'"
  | .valueMissing f =>
    "error: a value is required for '" ++ f.label ++ "' but none was supplied"
  | .badValue f v e =>
    "error: invalid value '" ++ plainText v ++ "' for '" ++ f.label ++ "'" ++
      plainText (": " ++ e.message ++ "\n\nFor more information, try '") ++ "--help'.\n"
  | .repeated f => "error: the argument '" ++ f.label ++ "' cannot be used multiple times"
  | .needlessValue f v =>
    "error: unexpected value '" ++ plainText v ++ "' for '" ++ f.label ++
      "' found; no more were expected"
  | .commandMissing l =>
    "error: '" ++ l.title ++ "' requires a subcommand but one was not provided"
  | .wordsMissing => "help"
  | .helpAsked v => (v.map Verb.about).getD "help"
  | .versionAsked => "version"

def headline (r : Refusal) : String := String.ofList (r.message.toList.takeWhile (· != '\n'))

def report (r : Refusal) : String :=
  match r with
  | .badValue _ _ e => r.message ++ ": " ++ e.message
  | _ => r.message

end Refusal

end AgdaConsole
