import AgdaConsole.Toml.Number

namespace AgdaConsole.Toml

/-- A character that may stand in a comment or a string as it is. -/
def isPlain (c : Char) : Bool := c = '\t' || !Text.isControl c

/-- The character that a code point in hexadecimal digits is. -/
def codePoint? (ds : List Char) : Option Char :=
  if ds.all isHexadecimal then
    let n := ofDigits 16 ds
    if n.isValidChar then some (Char.ofNat n) else none
  else none

/-- The character that a letter stands for after a backslash. -/
def escape? : Char → Option Char
  | 'b' => some '\x08'
  | 't' => some '\t'
  | 'n' => some '\n'
  | 'f' => some '\x0c'
  | 'r' => some '\r'
  | 'e' => some '\x1b'
  | '"' => some '"'
  | '\\' => some '\\'
  | _ => none

/-- Put a character in front of the content of a string. -/
def consTo (c : Option Char) (read : Option (List Char × List Char)) :
    Option (List Char × List Char) :=
  match c, read with
  | some c, some (s, r) => some (c :: s, r)
  | _, _ => none

/-- Read a string in double quotes after the first quote: its content and what follows it. -/
def readBasic : List Char → Option (List Char × List Char)
  | [] => none
  | '"' :: r => some ([], r)
  | '\\' :: 'x' :: a :: b :: r => consTo (codePoint? [a, b]) (readBasic r)
  | '\\' :: 'u' :: a :: b :: c :: d :: r => consTo (codePoint? [a, b, c, d]) (readBasic r)
  | '\\' :: 'U' :: a :: b :: c :: d :: e :: f :: g :: h :: r =>
    consTo (codePoint? [a, b, c, d, e, f, g, h]) (readBasic r)
  | '\\' :: c :: r => consTo (escape? c) (readBasic r)
  | c :: r => if isPlain c then consTo (some c) (readBasic r) else none

/-- Read a string in single quotes after the first quote: its content and what follows it. -/
def readLiteral : List Char → Option (List Char × List Char)
  | [] => none
  | '\'' :: r => some ([], r)
  | c :: r => if isPlain c then consTo (some c) (readLiteral r) else none

/-- Where a reader stands after a backslash at the end of a line: before the end of the line, or
in the blanks that follow it. -/
inductive Fold
  | off
  | before
  | after
  deriving DecidableEq, Repr

/-- A blank that a backslash at the end of a line takes along. -/
def isFolded (c : Char) : Bool := c = ' ' || c = '\t' || c = '\n' || c = '\r'

/-- Read a string in triple double quotes after the first three. One or two quotes more than
three at the end are part of the content. -/
def readBasicLines (fold : Fold) : List Char → Option (List Char × List Char)
  | [] => none
  | '\r' :: '\n' :: r =>
    if fold = .off then
      consTo (some '\r') (consTo (some '\n') (readBasicLines .off r))
    else readBasicLines .after r
  | '\n' :: r =>
    if fold = .off then consTo (some '\n') (readBasicLines .off r)
    else readBasicLines .after r
  | c :: r =>
    if fold ≠ .off && (c = ' ' || c = '\t') then readBasicLines fold r
    else if fold = .before then none
    else
      match c, r with
      | '"', '"' :: '"' :: '"' :: '"' :: r => some (['"', '"'], r)
      | '"', '"' :: '"' :: '"' :: r => some (['"'], r)
      | '"', '"' :: '"' :: r => some ([], r)
      | '\\', 'x' :: a :: b :: r => consTo (codePoint? [a, b]) (readBasicLines .off r)
      | '\\', 'u' :: a :: b :: c :: d :: r =>
        consTo (codePoint? [a, b, c, d]) (readBasicLines .off r)
      | '\\', 'U' :: a :: b :: c :: d :: e :: f :: g :: h :: r =>
        consTo (codePoint? [a, b, c, d, e, f, g, h]) (readBasicLines .off r)
      | '\\', c :: r =>
        if isFolded c then readBasicLines .before (c :: r)
        else consTo (escape? c) (readBasicLines .off r)
      | c, r => if isPlain c then consTo (some c) (readBasicLines .off r) else none

/-- Read a string in triple single quotes after the first three. One or two quotes more than
three at the end are part of the content. -/
def readLiteralLines : List Char → Option (List Char × List Char)
  | [] => none
  | '\'' :: '\'' :: '\'' :: '\'' :: '\'' :: r => some (['\'', '\''], r)
  | '\'' :: '\'' :: '\'' :: '\'' :: r => some (['\''], r)
  | '\'' :: '\'' :: '\'' :: r => some ([], r)
  | '\r' :: '\n' :: r => consTo (some '\r') (consTo (some '\n') (readLiteralLines r))
  | '\n' :: r => consTo (some '\n') (readLiteralLines r)
  | c :: r => if isPlain c then consTo (some c) (readLiteralLines r) else none

/-- A text without the end of line it starts with. -/
def dropFirstBreak : List Char → List Char
  | '\n' :: r => r
  | '\r' :: '\n' :: r => r
  | s => s

def readQuoted : List Char → Option (List Char × List Char)
  | '"' :: '"' :: '"' :: r => readBasicLines .off (dropFirstBreak r)
  | '"' :: r => readBasic r
  | '\'' :: '\'' :: '\'' :: r => readLiteralLines (dropFirstBreak r)
  | '\'' :: r => readLiteral r
  | _ => none

end AgdaConsole.Toml
