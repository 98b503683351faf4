import AgdaConsole.Protocol.Verb

namespace AgdaConsole

/-- The values at the places of an argument list. -/
inductive Arguments : List Slot → Type
  | nil : Arguments []
  | cons {s : Slot} {l : List Slot} (value : s.Value) (rest : Arguments l) : Arguments (s :: l)

structure Command where
  verb : Verb
  arguments : Arguments verb.layout

/-- A value for each argument that a command may have.
The values of the arguments a command does not have are not used. -/
structure Choices where
  backend : CompileBackend := Vocabulary.standard
  options : List String := []
  rewrite : RewriteMode := Vocabulary.standard
  compute : ComputeMode := Vocabulary.standard
  remove : TokenHighlighting := Vocabulary.standard
  force : UseForce := Vocabulary.standard
  whether : Bool := false
  id : UInt32 := 0
  range : Range := .noRange
  expr : String := ""

/-- The value chosen for a place of an argument list. -/
def Choices.at (c : Choices) : (s : Slot) → s.Value
  | .file => ()
  | .backend => c.backend
  | .options => c.options
  | .rewrite => c.rewrite
  | .compute => c.compute
  | .remove => c.remove
  | .force => c.force
  | .whether => c.whether
  | .goal => (⟨c.id, c.range, c.expr⟩ : Goal)
  | .expr => c.expr

def Choices.arguments (c : Choices) : (l : List Slot) → Arguments l
  | [] => .nil
  | s :: l => .cons (c.at s) (c.arguments l)

/-- The command of a name with the values chosen for its arguments. -/
def Command.choose (v : Verb) (c : Choices) : Command := ⟨v, c.arguments v.layout⟩

def wireList : List String → List Char
  | [] => "[]".toList
  | s :: r => '[' :: Text.literal s.toList ++ (r.map fun x => ' ' :: Text.literal x.toList).flatten ++
      [']']

/-- The protocol's text of a goal: its number, its range and its expression. -/
def Goal.wire (g : Goal) : List Char :=
  Text.decimal g.id.toNat ++ [' '] ++ g.range.wire ++ [' '] ++ Text.literal g.expr.toList

/-- The protocol's text of one argument, in an envelope to a file. -/
def Slot.wire (file : String) : (s : Slot) → s.Value → List Char
  | .file, _ => Text.literal file.toList
  | .backend, (v : CompileBackend) => (Vocabulary.spelling v).toList
  | .options, (v : List String) => wireList v
  | .rewrite, (v : RewriteMode) => (Vocabulary.spelling v).toList
  | .compute, (v : ComputeMode) => (Vocabulary.spelling v).toList
  | .remove, (v : TokenHighlighting) => (Vocabulary.spelling v).toList
  | .force, (v : UseForce) => (Vocabulary.spelling v).toList
  | .whether, (v : Bool) => (spellBool v).toList
  | .goal, (v : Goal) => v.wire
  | .expr, (v : String) => Text.literal v.toList

/-- The protocol's text of arguments, each after a space. -/
def Arguments.wire (file : String) : {l : List Slot} → Arguments l → List Char
  | _, .nil => []
  | _, .cons (s := s) value rest => ' ' :: s.wire file value ++ rest.wire file

def Arguments.goal? : {l : List Slot} → Arguments l → Option Goal
  | _, .nil => none
  | _, .cons (s := .goal) value _ => some value
  | _, .cons _ rest => rest.goal?

def Arguments.expr? : {l : List Slot} → Arguments l → Option String
  | _, .nil => none
  | _, .cons (s := .expr) value _ => some value
  | _, .cons _ rest => rest.expr?

/-- A goal says what a command looks at if it has a range or an expression. -/
def Goal.isTargeted (g : Goal) : Bool := !g.range.isEmpty || !blankText g.expr

/-- The arguments of a command contain what the command demands. -/
def Command.isMet (c : Command) : Bool :=
  match c.verb.demand with
  | .nothing => true
  | .target => c.arguments.goal?.all Goal.isTargeted
  | .expression => c.arguments.expr?.all fun e => !blankText e

end AgdaConsole
