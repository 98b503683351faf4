import AgdaConsole.Text.Blank
import AgdaConsole.Text.Pieces
import AgdaConsole.Text.Numeral
import AgdaConsole.Text.Literal

namespace AgdaConsole

structure Position where
  line : UInt32
  column : UInt32
  offset : UInt32
  deriving DecidableEq, Repr

/-- The two ends of a stretch of source text, in the order they were given. -/
structure Interval where
  start : Position
  stop : Position
  deriving DecidableEq, Repr

/-- A place in the source: none, or some intervals of a file. -/
inductive Range
  | noRange
  | span (file : Option String) (intervals : List Interval)
  deriving DecidableEq, Repr

namespace Position

inductive Coordinate
  | line
  | column
  | offset
  deriving DecidableEq, Repr

def Coordinate.name : Coordinate → String
  | .line => "line"
  | .column => "column"
  | .offset => "offset"

/-- Why a text is no position: it does not have three fields, or a field is no number. -/
inductive Fault
  | shape (text : String)
  | number (coordinate : Coordinate) (text : String)
  deriving DecidableEq, Repr

def Fault.message : Fault → String
  | .shape t => "position '" ++ t ++ "' is not LINE:COLUMN:OFFSET"
  | .number c t => c.name ++ " '" ++ t ++ "' is not a non-negative integer"

/-- The number in one field of a position. -/
def readField (c : Coordinate) (s : List Char) : Except Fault UInt32 :=
  let t := Text.trim s
  match Text.readWord t with
  | some n => .ok n
  | none => .error (.number c (String.ofList t))

/-- Read a position, three numbers between colons. -/
def read (s : List Char) : Except Fault Position :=
  let t := Text.trim s
  match Text.pieces ':' t with
  | [l, c, o] => do
    let line ← readField .line l
    let column ← readField .column c
    let offset ← readField .offset o
    return ⟨line, column, offset⟩
  | _ => .error (.shape (String.ofList t))

/-- The protocol's text of a position. -/
def wire (p : Position) : List Char :=
  "(Pn () ".toList ++ Text.decimal p.line.toNat ++ [' '] ++ Text.decimal p.column.toNat ++ [' '] ++
    Text.decimal p.offset.toNat ++ " )".toList

end Position

namespace Interval

/-- Why a text is no interval: it has no dash, or one of its ends is no position. -/
inductive Fault
  | shape (text : String)
  | position (fault : Position.Fault)
  deriving DecidableEq, Repr

def Fault.message : Fault → String
  | .shape t => "interval '" ++ t ++ "' is not START-END"
  | .position f => f.message

/-- Read an interval, two positions around the first dash. -/
def read (s : List Char) : Except Fault Interval :=
  let t := Text.trim s
  match Text.cutFirst '-' t with
  | none => .error (.shape (String.ofList t))
  | some (a, b) => do
    let start ← (Position.read a).mapError .position
    let stop ← (Position.read b).mapError .position
    return ⟨start, stop⟩

/-- The protocol's text of an interval. -/
def wire (i : Interval) : List Char :=
  "Interval  ".toList ++ i.start.wire ++ [' '] ++ i.stop.wire ++ [' ']

end Interval

/-- The text of a range that cannot be read, and what is wrong with its first bad piece. -/
structure MalformedRange where
  text : String
  reason : Interval.Fault
  deriving DecidableEq, Repr

def MalformedRange.message (m : MalformedRange) : String :=
  "malformed range '" ++ m.text ++ "': " ++ m.reason.message

namespace Range

/-- The word for the absence of a range. -/
def noRangeWord : String := "noRange"

def readIntervals : List (List Char) → Except Interval.Fault (List Interval)
  | [] => .ok []
  | p :: ps => do
    let i ← Interval.read p
    let is ← readIntervals ps
    return i :: is

/-- Read a range of a file: nothing or the word for no range, or intervals between commas. -/
def read (file : Option String) (text : String) : Except MalformedRange Range :=
  let t := Text.trim text.toList
  if t.isEmpty || t == noRangeWord.toList then .ok .noRange
  else
    match readIntervals (Text.pieces ',' t) with
    | .ok is => .ok (.span file is)
    | .error e => .error ⟨String.ofList t, e⟩

def isEmpty : Range → Bool
  | .noRange => true
  | .span _ is => is.isEmpty

def wireFile : Option String → List Char
  | none => "Nothing".toList
  | some f => "(Just (mkAbsolute ".toList ++ Text.literal f.toList ++ "))".toList

/-- The protocol's text of a range. A range without intervals is written as no range. -/
def wire : Range → List Char
  | .span file (i :: is) =>
    "(intervalsToRange ".toList ++ wireFile file ++ " [".toList ++
      ((i :: is).map Interval.wire).flatten ++ "])".toList
  | _ => noRangeWord.toList

end Range

end AgdaConsole
