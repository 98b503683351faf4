import AgdaConsole.CommandLine.Scan
import AgdaConsole.Protocol.Envelope
import AgdaConsole.Path
import AgdaConsole.Text.Word

namespace AgdaConsole

/-- Why some words make no envelope. -/
inductive LineFault
  | refusal (refusal : Refusal)
  | unresolved (file : String)
  | range (fault : MalformedRange)
  | envelope (fault : EnvelopeFault)
  deriving DecidableEq, Repr

/-- What is said about words that make no envelope, with the causes. -/
def LineFault.report : LineFault → String
  | .refusal r => r.report
  | .unresolved f => "failed to resolve '" ++ f ++ "': " ++ Path.emptyPathMessage
  | .range m => m.message
  | .envelope e => e.message

namespace Setting

def last? {α : Type} (pick : Setting → Option α) (settings : List Setting) : Option α :=
  (settings.filterMap pick).getLast?

def file? : Setting → Option String
  | .file p => some p
  | _ => none

def place? : Setting → Option String
  | .place t => some t
  | _ => none

def expr? : Setting → Option String
  | .expr t => some t
  | _ => none

def interactionId? : Setting → Option UInt32
  | .interactionId n => some n
  | _ => none

def backend? : Setting → Option CompileBackend
  | .backend v => some v
  | _ => none

def rewrite? : Setting → Option RewriteMode
  | .rewrite v => some v
  | _ => none

def computeMode? : Setting → Option ComputeMode
  | .computeMode v => some v
  | _ => none

def remove? : Setting → Option TokenHighlighting
  | .remove v => some v
  | _ => none

def force? : Setting → Option UseForce
  | .force v => some v
  | _ => none

def options : Setting → List String
  | .cmds l => l
  | _ => []

/-- The arguments that the settings of a command choose. The ranges are in `file`. -/
def choices (file : String) (settings : List Setting) : Except MalformedRange Choices :=
  let range : Except MalformedRange Range :=
    match last? place? settings with
    | none => .ok .noRange
    | some text => Range.read (some file) text
  range.map fun range =>
    { backend := (last? backend? settings).getD Vocabulary.standard
      options := (settings.map options).flatten
      rewrite := (last? rewrite? settings).getD Vocabulary.standard
      compute := (last? computeMode? settings).getD Vocabulary.standard
      remove := (last? remove? settings).getD Vocabulary.standard
      force := (last? force? settings).getD Vocabulary.standard
      whether := settings.contains .whether
      id := (last? interactionId? settings).getD 0
      range
      expr := (last? expr? settings).getD "" }

end Setting

/-- The envelope to a file of a command with its settings, for a user who works in `folder`.
The envelope keeps the file as it is given, and the ranges have its absolute path. -/
def envelopeFor (folder file : String) (verb : Verb) (settings : List Setting) :
    Except LineFault Envelope :=
  match Path.absolute? folder file with
  | none => .error (.unresolved file)
  | some full =>
    match Setting.choices full settings with
    | .error m => .error (.range m)
    | .ok c => (Envelope.make file (.choose verb c)).mapError .envelope

namespace Reading

/-- The settings of all levels, outermost first. -/
def settings (r : Reading) : List Setting := (r.map fun x => x.2).flatten

def inner? (r : Reading) : Option (Level × List Setting) := r.getLast?

end Reading

/-- The envelope that the words of a line after a colon ask for. The file is `default` unless
the words name one. -/
def envelopeOfWords (folder default : String) (words : List String) : Except LineFault Envelope :=
  match Level.line.read words with
  | .error r => .error (.refusal r)
  | .ok reading =>
    match reading.inner? with
    | some (.lineVerb verb, inner) =>
      envelopeFor folder ((Setting.last? Setting.file? reading.settings).getD default) verb inner
    | _ => .error (.refusal (.commandMissing .line))

/-- The envelope that a line after a colon asks for. -/
def envelopeOfLine (folder default line : String) : Except LineFault Envelope :=
  envelopeOfWords folder default (splitWords line)

end AgdaConsole
