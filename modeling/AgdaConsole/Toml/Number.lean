import AgdaConsole.Text.Literal
import AgdaConsole.Text.Pieces
import AgdaConsole.Toml.Value

namespace AgdaConsole.Toml

/-- The digits of a numeral. Single underscores may stand between them. -/
def grouped? (isDigit : Char → Bool) (s : List Char) : Option (List Char) :=
  let ps := Text.pieces '_' s
  if ps.all fun p => !p.isEmpty && p.all isDigit then some ps.flatten else none

def digitValue (c : Char) : Nat :=
  if c ≤ '9' then c.toNat - '0'.toNat
  else if c ≤ 'F' then c.toNat - 'A'.toNat + 10
  else c.toNat - 'a'.toNat + 10

def isHexadecimal (c : Char) : Bool :=
  Text.isDecimal c || ('a' ≤ c && c ≤ 'f') || ('A' ≤ c && c ≤ 'F')

def isOctal (c : Char) : Bool := '0' ≤ c && c ≤ '7'

def isBinary (c : Char) : Bool := c = '0' || c = '1'

def ofDigits (base : Nat) (ds : List Char) : Nat :=
  ds.foldl (fun n c => n * base + digitValue c) 0

/-- The decimal digits of a numeral that has no zero in front. -/
def leading? (s : List Char) : Option (List Char) :=
  (grouped? Text.isDecimal s).filter fun ds => ds.length = 1 || ds.head? ≠ some '0'

/-- The sign of a text and what follows it. -/
def signed (s : List Char) : Bool × List Char :=
  match s with
  | '+' :: r => (false, r)
  | '-' :: r => (true, r)
  | _ => (false, s)

def withSign (negative : Bool) (n : Nat) : Int := if negative then -(n : Int) else n

/-- The integer that a word is, decimal with a sign or of another base without. -/
def whole? (s : List Char) : Option Int :=
  match s with
  | '0' :: 'x' :: r => (grouped? isHexadecimal r).map fun ds => ofDigits 16 ds
  | '0' :: 'o' :: r => (grouped? isOctal r).map fun ds => ofDigits 8 ds
  | '0' :: 'b' :: r => (grouped? isBinary r).map fun ds => ofDigits 2 ds
  | _ =>
    let (negative, r) := signed s
    (leading? r).map fun ds => withSign negative (ofDigits 10 ds)

def exponent? (s : List Char) : Option Int :=
  let (negative, r) := signed s
  (grouped? Text.isDecimal r).map fun ds => withSign negative (ofDigits 10 ds)

/-- The real number that a word without a sign is: digits, with a fraction or an exponent. -/
def unsignedReal? (negative : Bool) (s : List Char) : Option Value :=
  let (front, power) :=
    match Text.cutFirst 'e' (s.map fun c => if c = 'E' then 'e' else c) with
    | some (a, b) => (a, some b)
    | none => (s, none)
  let exponent : Option Int := power.elim (some 0) exponent?
  match Text.cutFirst '.' front, exponent with
  | some (a, b), some e =>
    match leading? a, grouped? Text.isDecimal b with
    | some ds, some fs =>
      some (.real (withSign negative (ofDigits 10 (ds ++ fs))) (e - fs.length))
    | _, _ => none
  | none, some e =>
    if power.isSome then
      (leading? front).map fun ds => .real (withSign negative (ofDigits 10 ds)) e
    else none
  | _, none => none

/-- The number that a word is, if it is one that is no integer. -/
def real? (s : List Char) : Option Value :=
  let (negative, r) := signed s
  if r = "inf".toList then some .unbounded
  else if r = "nan".toList then some .noNumber
  else unsignedReal? negative r

end AgdaConsole.Toml
