import AgdaConsole.Protocol.Verb

namespace AgdaConsole

/-- The flags of the command line and of the lines after a colon. -/
inductive Flag
  | file
  | config
  | verbose
  | exec
  | agda
  | prelude
  | includePath
  | history
  | workingDir
  | backend
  | cmds
  | rewrite
  | computeMode
  | remove
  | force
  | whether
  | interactionId
  | place
  | expr
  | help
  | version
  deriving DecidableEq, Repr

/-- What a flag takes: nothing, nothing but it may stand several times, one value, or one value
each time it stands. -/
inductive Flag.Arity
  | switch
  | count
  | single
  | several
  deriving DecidableEq, Repr

namespace Flag

/-- The long names of a flag, the one it is shown with first. -/
def longNames : Flag → List String
  | .file => ["file"]
  | .config => ["config"]
  | .verbose => ["verbose"]
  | .exec => ["exec"]
  | .agda => ["agda"]
  | .prelude => ["prelude"]
  | .includePath => ["include-path"]
  | .history => ["history"]
  | .workingDir => ["working-dir"]
  | .backend => ["backend"]
  | .cmds => ["cmds"]
  | .rewrite => ["rewrite"]
  | .computeMode => ["compute-mode", "computeMode"]
  | .remove => ["remove"]
  | .force => ["force"]
  | .whether => ["whether"]
  | .interactionId => ["interaction-id", "interactionId"]
  | .place => ["where"]
  | .expr => ["expr"]
  | .help => ["help"]
  | .version => ["version"]

def name (f : Flag) : String := (longNames f).headD ""

def letter? : Flag → Option Char
  | .file => some 'f'
  | .verbose => some 'v'
  | .includePath => some 'i'
  | .backend => some 'b'
  | .cmds => some 'c'
  | .rewrite => some 'r'
  | .computeMode => some 'c'
  | .interactionId => some 'i'
  | .place => some 'w'
  | .expr => some 'e'
  | .help => some 'h'
  | .version => some 'V'
  | _ => none

def arity : Flag → Arity
  | .exec | .whether | .help | .version => .switch
  | .verbose => .count
  | .cmds | .includePath => .several
  | _ => .single

/-- A flag that takes a value. -/
def takesValue (f : Flag) : Bool :=
  match f.arity with
  | .switch | .count => false
  | .single | .several => true

/-- A flag whose value may be any word, even one that looks like a flag. -/
def takesAnyWord (f : Flag) : Bool := f == .expr

def valueName : Flag → String
  | .file => "FILE"
  | .config => "CONFIG"
  | .agda => "AGDA"
  | .prelude => "PRELUDE"
  | .includePath => "INCLUDE_PATHS"
  | .history => "HISTORY"
  | .workingDir => "WORKING_DIR"
  | .backend => "BACKEND"
  | .cmds => "CMDS"
  | .rewrite => "REWRITE"
  | .computeMode => "COMPUTE_MODE"
  | .remove => "REMOVE"
  | .force => "FORCE"
  | .interactionId => "INTERACTION_ID"
  | .place => "RANGE"
  | .expr => "EXPR"
  | .verbose | .exec | .whether | .help | .version => ""

/-- How a message shows a flag: with the name of its value, or with dots if it may stand several
times without one. -/
def label (f : Flag) : String :=
  match f.arity with
  | .switch => "--" ++ f.name
  | .count => "--" ++ f.name ++ "..."
  | .single | .several => "--" ++ f.name ++ " <" ++ f.valueName ++ ">"

end Flag

/-- The flags that give the value at a place of an argument list. -/
def Slot.flags : Slot → List Flag
  | .file => []
  | .backend => [.backend]
  | .options => [.cmds]
  | .rewrite => [.rewrite]
  | .compute => [.computeMode]
  | .remove => [.remove]
  | .force => [.force]
  | .whether => [.whether]
  | .goal => [.interactionId, .place, .expr]
  | .expr => [.expr]

/-- The flags that give the arguments of a command. -/
def Verb.flags (v : Verb) : List Flag := (v.layout.map Slot.flags).flatten

end AgdaConsole
