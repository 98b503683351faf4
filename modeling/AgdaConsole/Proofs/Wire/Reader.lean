import AgdaConsole.Proofs.Text.LiteralReader
import AgdaConsole.Protocol.Envelope

namespace AgdaConsole

/-- A reader takes a value off the front of a text and leaves what follows it. -/
abbrev Reader (α : Type) := List Char → Option (α × List Char)

namespace Reader

/-- Read values one after the other, for as long as there is one. -/
def many {α : Type} (read : Reader α) (s : List Char) : List α × List Char :=
  match read s with
  | none => ([], s)
  | some (a, r) =>
    if r.length < s.length then (a :: (many read r).1, (many read r).2) else ([], s)
termination_by s.length

/-- A character that ends a word of an envelope line. -/
def isStop (c : Char) : Bool := c == ' ' || c == ')'

/-- Read a word, which reaches to the next space or closing parenthesis. -/
def word (s : List Char) : String × List Char :=
  (String.ofList (s.takeWhile fun c => !isStop c), s.dropWhile fun c => !isStop c)

def string : Reader String := fun s =>
  (Text.readLiteral s).map fun (t, rest) => (String.ofList t, rest)

def number : Reader UInt32 := fun s =>
  (Text.readWord (s.takeWhile Text.isDecimal)).map fun n => (n, s.dropWhile Text.isDecimal)

def spelled {α : Type} [Vocabulary α] : Reader α := fun s =>
  match readSpelling (word s).1 with
  | .ok a => some (a, (word s).2)
  | .error _ => none

def bool : Reader Bool := fun s =>
  ([true, false].find? fun b => spellBool b == (word s).1).map fun b => (b, (word s).2)

/-- Read a string literal that stands after a space. -/
def nextString : Reader String := fun s => (s.dropPrefix? [' ']).bind string

/-- Read the strings of a list after its opening bracket, at least one. -/
def stringsFrom : Reader (List String) := fun s => do
  let (x, s) ← string s
  let (xs, s) := many nextString s
  let s ← s.dropPrefix? [']']
  return (x :: xs, s)

def strings : Reader (List String) := fun s =>
  match s with
  | '[' :: ']' :: rest => some ([], rest)
  | '[' :: s => stringsFrom s
  | _ => none

def position : Reader Position := fun s => do
  let s ← s.dropPrefix? "(Pn () ".toList
  let (line, s) ← number s
  let s ← s.dropPrefix? [' ']
  let (column, s) ← number s
  let s ← s.dropPrefix? [' ']
  let (offset, s) ← number s
  let s ← s.dropPrefix? " )".toList
  return (⟨line, column, offset⟩, s)

def interval : Reader Interval := fun s => do
  let s ← s.dropPrefix? "Interval  ".toList
  let (start, s) ← position s
  let s ← s.dropPrefix? [' ']
  let (stop, s) ← position s
  let s ← s.dropPrefix? [' ']
  return (⟨start, stop⟩, s)

def rangeFile : Reader (Option String) := fun s =>
  match s.dropPrefix? "Nothing".toList with
  | some s => some (none, s)
  | none => do
    let s ← s.dropPrefix? "(Just (mkAbsolute ".toList
    let (file, s) ← string s
    let s ← s.dropPrefix? "))".toList
    return (some file, s)

def range : Reader Range := fun s =>
  match s.dropPrefix? Range.noRangeWord.toList with
  | some s => some (.noRange, s)
  | none => do
    let s ← s.dropPrefix? "(intervalsToRange ".toList
    let (file, s) ← rangeFile s
    let s ← s.dropPrefix? " [".toList
    let (intervals, s) := many interval s
    let s ← s.dropPrefix? "])".toList
    return (.span file intervals, s)

def goal : Reader Goal := fun s => do
  let (id, s) ← number s
  let s ← s.dropPrefix? [' ']
  let (range, s) ← range s
  let s ← s.dropPrefix? [' ']
  let (expr, s) ← string s
  return (⟨id, range, expr⟩, s)

/-- Read an argument of an envelope to a file. -/
def argument (file : String) : (s : Slot) → Reader s.Value
  | .file => fun s => do
    let (f, s) ← string s
    if f = file then return ((), s) else none
  | .backend => (spelled : Reader CompileBackend)
  | .options => strings
  | .rewrite => (spelled : Reader RewriteMode)
  | .compute => (spelled : Reader ComputeMode)
  | .remove => (spelled : Reader TokenHighlighting)
  | .force => (spelled : Reader UseForce)
  | .whether => bool
  | .goal => goal
  | .expr => string

/-- Read arguments, each after a space. -/
def arguments (file : String) : (l : List Slot) → Reader (Arguments l)
  | [] => fun s => some (.nil, s)
  | slot :: l => fun s => do
    let s ← s.dropPrefix? [' ']
    let (value, s) ← argument file slot s
    let (rest, s) ← arguments file l s
    return (.cons value rest, s)

end Reader

namespace Envelope

/-- The file and the command in an envelope line. -/
def decode (line : String) : Option (String × Command) := do
  let s ← line.toList.dropPrefix? "IOTCM ".toList
  let (file, s) ← Reader.string s
  let s ← s.dropPrefix? [' ']
  let (feedback, s) := Reader.word s
  let s ← s.dropPrefix? " Indirect (Cmd_".toList
  let (name, s) := Reader.word s
  let verb ← Verb.ofName? name
  let (arguments, s) ← Reader.arguments file verb.layout s
  if feedback = verb.feedback.name ∧ s = [')'] then return (file, ⟨verb, arguments⟩) else none

end Envelope

end AgdaConsole
