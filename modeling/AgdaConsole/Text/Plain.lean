namespace AgdaConsole.Text

/-- Where a reader stands in a terminal control sequence. -/
inductive Control
  | ground
  | escape
  | intermediate
  | sequence
  | command
  | string
  deriving DecidableEq, Repr

/-- A blank of ASCII that a terminal shows wherever it stands, except in a string. -/
def isLayout (c : Char) : Bool :=
  c = '\t' || c = '\n' || c = '\x0c' || c = '\r'

def between (lo hi : Nat) (c : Char) : Bool := lo ≤ c.toNat && c.toNat ≤ hi

/-- What a character does at a place of a control sequence: where the reader stands after it,
and whether it is shown. -/
def Control.step (st : Control) (c : Char) : Control × Bool :=
  if c = '\x18' || c = '\x1a' then (.ground, false)
  else if c = '\x1b' then (.escape, false)
  else if 0x80 ≤ c.toNat then (.ground, true)
  else
    match st with
    | .ground => (.ground, isLayout c || between 0x20 0x7E c)
    | .command => if c = '\x07' then (.ground, false) else (.command, false)
    | .string => (.string, false)
    | .escape =>
      if isLayout c then (.ground, true)
      else if between 0x20 0x2F c then (.intermediate, false)
      else if c = '[' then (.sequence, false)
      else if c = ']' then (.command, false)
      else if c = 'P' || c = 'X' || c = '^' || c = '_' then (.string, false)
      else if between 0x30 0x7E c then (.ground, false)
      else (.escape, false)
    | .intermediate =>
      if isLayout c then (.ground, true)
      else if between 0x30 0x7E c then (.ground, false)
      else (.intermediate, false)
    | .sequence =>
      if isLayout c then (.ground, true)
      else if between 0x40 0x7E c then (.ground, false)
      else (.sequence, false)

/-- The characters of a text that a terminal shows, from a place in a control sequence on. -/
def shownFrom (st : Control) : List Char → List Char
  | [] => []
  | c :: r =>
    let (next, shown) := st.step c
    if shown then c :: shownFrom next r else shownFrom next r

/-- The characters of a text that a terminal shows: all but control characters and the
sequences they open. -/
def plain (s : List Char) : List Char := shownFrom .ground s

end AgdaConsole.Text

namespace AgdaConsole

def plainText (s : String) : String := String.ofList (Text.plain s.toList)

end AgdaConsole
