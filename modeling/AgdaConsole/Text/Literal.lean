namespace AgdaConsole.Text

def isDecimal (c : Char) : Bool := '0' ≤ c && c ≤ '9'

def isControl (c : Char) : Bool := c.toNat < 0x20 || c.toNat == 0x7F

def decimal (n : Nat) : List Char := Nat.toDigits 10 n

/-- How a string literal writes a character that `next` follows.
A control character without an escape of its own is written as its code, and an empty escape
keeps the code apart from a digit that follows. -/
def escaped (c : Char) (next : Option Char) : List Char :=
  if c = '"' then ['\\', '"']
  else if c = '\\' then ['\\', '\\']
  else if c = '\n' then ['\\', 'n']
  else if c = '\t' then ['\\', 't']
  else if c = '\r' then ['\\', 'r']
  else if c = '\x07' then ['\\', 'a']
  else if c = '\x08' then ['\\', 'b']
  else if c = '\x0b' then ['\\', 'v']
  else if c = '\x0c' then ['\\', 'f']
  else if isControl c then
    '\\' :: decimal c.toNat ++ (if next.any isDecimal then ['\\', '&'] else [])
  else [c]

/-- The characters between the quotes of the string literal of a text. -/
def literalBody : List Char → List Char
  | [] => []
  | c :: r => escaped c r.head? ++ literalBody r

def literal (s : List Char) : List Char := '"' :: literalBody s ++ ['"']

end AgdaConsole.Text
