import AgdaConsole.CommandLine.Setting

namespace AgdaConsole

namespace Level

/-- The flags known at a level. Those of an outer level that hold everywhere come last. -/
def flags : Level → List Flag
  | .line => [.file, .help]
  | .lineVerb v => v.flags ++ [.file, .help]
  | .program => [.config, .verbose, .help, .version]
  | .repl => [.prelude, .agda, .includePath, .history, .workingDir, .config, .verbose, .help]
  | .agda => [.file, .exec, .agda, .config, .verbose, .help]
  | .agdaVerb v => v.flags ++ [.file, .exec, .agda, .config, .verbose, .help]

/-- The level that a word leads to. -/
def enter? : Level → String → Option Level
  | .line, w => (Verb.ofName? w).map .lineVerb
  | .agda, w => (Verb.ofName? w).map .agdaVerb
  | .program, w => if w == "repl" then some .repl else if w == "agda" then some .agda else none
  | .lineVerb _, _ | .repl, _ | .agdaVerb _, _ => none

def needsCommand : Level → Bool
  | .line | .program | .agda => true
  | .lineVerb _ | .repl | .agdaVerb _ => false

def verb? : Level → Option Verb
  | .lineVerb v | .agdaVerb v => some v
  | _ => none

def longFlag? (l : Level) (name : String) : Option Flag :=
  l.flags.find? fun f => f.longNames.contains name

def letterFlag? (l : Level) (c : Char) : Option Flag :=
  l.flags.find? fun f => f.letter? == some c

end Level

/-- How far the words of a level have been read: the settings so far, and a flag that was met
last and is still to be set, with the word that follows it if that was met too. -/
structure Scan where
  settings : List Setting := []
  pending : Option (Flag × Option String) := none

namespace Scan

/-- Set a flag. Only flags that may stand several times are set twice. -/
def add (s : Scan) (f : Flag) (setting : Except Refusal Setting) : Except Refusal Scan :=
  if (f.arity == .switch || f.arity == .single) && s.settings.any fun x => x.flag == f then
    .error (.repeated f)
  else setting.map fun x => { s with settings := s.settings ++ [x] }

/-- Set the flag that is still to be set. -/
def settle (s : Scan) : Except Refusal Scan :=
  match s.pending with
  | none => .ok s
  | some (f, none) => .error (.valueMissing f)
  | some (f, some v) => { s with pending := none }.add f (f.read v)

/-- Set a flag to a value that stands in the same word. -/
def attach (s : Scan) (f : Flag) (value : String) : Except Refusal Scan :=
  s.settle.bind fun s => s.add f (f.read value)

/-- Leave a flag to be set by the next word. -/
def await (s : Scan) (f : Flag) : Except Refusal Scan :=
  s.settle.map fun s => { s with pending := some (f, none) }

/-- Set a flag that takes no value. -/
def switch (s : Scan) (l : Level) (f : Flag) : Except Refusal Scan :=
  s.settle.bind fun s => s.add f (f.switchOn l.verb?)

def waiting? (s : Scan) : Option Flag :=
  match s.pending with
  | some (f, none) => some f
  | _ => none

/-- Read a word of a long flag, without its dashes. -/
def longWord (s : Scan) (l : Level) (w : List Char) : Except Refusal Scan :=
  let (name, value) :=
    match Text.cutFirst '=' w with
    | some (n, v) => (String.ofList n, some (String.ofList v))
    | none => (String.ofList w, none)
  match l.longFlag? name with
  | none => .error (.unexpected ("--" ++ name))
  | some f =>
    match f.takesValue, value with
    | true, some v => s.attach f v
    | true, none => s.await f
    | false, some v => .error (.needlessValue f v)
    | false, none => s.switch l f

/-- Read a word of letters, each a flag, without its dash.
The first flag that takes a value has what is left of the word, after an equals sign or not. -/
def letters (s : Scan) (l : Level) : List Char → Except Refusal Scan
  | [] => .ok s
  | c :: r =>
    match l.letterFlag? c with
    | none => .error (.unexpected ("-" ++ String.singleton c))
    | some f =>
      if f.takesValue then
        match r with
        | [] => s.await f
        | '=' :: v => s.attach f (String.ofList v)
        | v => s.attach f (String.ofList v)
      else (s.switch l f).bind fun s => s.letters l r

/-- Read a word that is neither a command nor two dashes. -/
def word (s : Scan) (l : Level) (w : String) : Except Refusal Scan :=
  match w.toList with
  | '-' :: '-' :: r => s.longWord l r
  | '-' :: c :: r => s.letters l (c :: r)
  | _ =>
    match s.waiting? with
    | some f => .ok { s with pending := some (f, some w) }
    | none => .error (if l.needsCommand then .unknownCommand w else .unexpected w)

/-- The settings of a level whose words have all been read. -/
def finish (s : Scan) (l : Level) : Except Refusal (List Setting) :=
  s.settle.bind fun s =>
    if l.needsCommand then
      .error (if s.settings.isEmpty then .wordsMissing else .commandMissing l)
    else .ok s.settings

/-- Read the words after two dashes, which all are out of place. -/
def afterDashes (s : Scan) (l : Level) : List String → Except Refusal (List Setting)
  | [] => s.finish l
  | w :: _ =>
    if !l.needsCommand || (l.enter? w).isSome || w == "help" then .error (.unexpected w)
    else .error (.unknownCommand w)

end Scan

def helpOn : Level → List String → Refusal
  | l, [] => .helpAsked l.verb?
  | l, w :: ws =>
    match l.enter? w with
    | some inner => helpOn inner ws
    | none =>
      if l.needsCommand && w == "help" then
        match ws with
        | [] => .helpAsked none
        | x :: _ => .unknownCommand x
      else .unknownCommand w

/-- The settings of each level that some words lead through, outermost first. -/
abbrev Reading := List (Level × List Setting)

/-- Read words from a level on. -/
def Level.scan (l : Level) (s : Scan) : List String → Except Refusal Reading
  | [] => (s.finish l).map fun settings => [(l, settings)]
  | w :: ws =>
    match s.waiting? with
    | some f =>
      if f.takesAnyWord then l.scan { s with pending := some (f, some w) } ws
      else if w == "--" then (s.afterDashes l ws).map fun settings => [(l, settings)]
      else (s.word l w).bind fun s => l.scan s ws
    | none =>
      match l.enter? w with
      | some inner =>
        (inner.scan {} ws).bind fun reading =>
          s.settle.map fun s => (l, s.settings) :: reading
      | none =>
        if l.needsCommand && w == "help" then .error (helpOn l ws)
        else if w == "--" then (s.afterDashes l ws).map fun settings => [(l, settings)]
        else (s.word l w).bind fun s => l.scan s ws

/-- The settings that some words give, from a level on. -/
def Level.read (l : Level) (words : List String) : Except Refusal Reading := l.scan {} words

end AgdaConsole
