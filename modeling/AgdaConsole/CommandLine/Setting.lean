import AgdaConsole.CommandLine.Refusal

namespace AgdaConsole

inductive Setting
  | file (path : String)
  | config (path : String)
  | verbose
  | exec
  | agda (path : String)
  | prelude (path : String)
  | includePath (path : String)
  | history (path : String)
  | workingDir (path : String)
  | backend (value : CompileBackend)
  | cmds (values : List String)
  | rewrite (value : RewriteMode)
  | computeMode (value : ComputeMode)
  | remove (value : TokenHighlighting)
  | force (value : UseForce)
  | whether
  | interactionId (value : UInt32)
  | place (text : String)
  | expr (text : String)
  deriving DecidableEq, Repr

def Setting.flag : Setting → Flag
  | .file _ => .file
  | .config _ => .config
  | .verbose => .verbose
  | .exec => .exec
  | .agda _ => .agda
  | .prelude _ => .prelude
  | .includePath _ => .includePath
  | .history _ => .history
  | .workingDir _ => .workingDir
  | .backend _ => .backend
  | .cmds _ => .cmds
  | .rewrite _ => .rewrite
  | .computeMode _ => .computeMode
  | .remove _ => .remove
  | .force _ => .force
  | .whether => .whether
  | .interactionId _ => .interactionId
  | .place _ => .place
  | .expr _ => .expr

namespace Flag

/-- Read a path, which must not be empty. -/
def readPath (f : Flag) (make : String → Setting) (value : String) : Except Refusal Setting :=
  if value.isEmpty then .error (.valueMissing f) else .ok (make value)

/-- Read one of the fixed words of a vocabulary. -/
def readWord {α : Type} [Vocabulary α] (f : Flag) (make : α → Setting) (value : String) :
    Except Refusal Setting :=
  match readSpelling value with
  | .ok a => .ok (make a)
  | .error u => .error (.badValue f value (.spelling u))

/-- Read the number of a goal. It is read as a signed number first. -/
def readId (value : String) : Except Refusal Setting :=
  match Text.readSigned value.toList with
  | .error e => .error (.badValue .interactionId value (.numeral e))
  | .ok n =>
    if h : n.toNat < UInt32.size ∧ 0 ≤ n then .ok (.interactionId (UInt32.ofNatLT n.toNat h.1))
    else .error (.badValue .interactionId value (.outside n))

def read (f : Flag) (value : String) : Except Refusal Setting :=
  match f with
  | .file => readPath f .file value
  | .config => readPath f .config value
  | .agda => readPath f .agda value
  | .prelude => readPath f .prelude value
  | .includePath => readPath f .includePath value
  | .history => readPath f .history value
  | .workingDir => readPath f .workingDir value
  | .backend => readWord f .backend value
  | .rewrite => readWord f .rewrite value
  | .computeMode => readWord f .computeMode value
  | .remove => readWord f .remove value
  | .force => readWord f .force value
  | .cmds => .ok (.cmds ((Text.pieces ',' value.toList).map String.ofList))
  | .interactionId => readId value
  | .place => .ok (.place value)
  | .expr => .ok (.expr value)
  | .verbose | .exec | .whether | .help | .version => .error (.needlessValue f value)

/-- What a flag without a value sets, or what it asks for. -/
def switchOn (f : Flag) (verb : Option Verb) : Except Refusal Setting :=
  match f with
  | .verbose => .ok .verbose
  | .exec => .ok .exec
  | .whether => .ok .whether
  | .help => .error (.helpAsked verb)
  | .version => .error .versionAsked
  | _ => .error (.valueMissing f)

end Flag

end AgdaConsole
