namespace AgdaConsole.Toml

/-- How a table came to be: by a header of its own or the braces it stands between, on the way to
the header of another table, or on the way of a dotted key. -/
inductive Origin
  | header
  | braces
  | implied
  | dotted
  deriving DecidableEq, Repr

/-- A value of a document. A list that grows is one to which headers add tables. -/
inductive Value
  | text (content : String)
  | truth (value : Bool)
  | whole (value : Int)
  | real (mantissa exponent : Int)
  | unbounded
  | noNumber
  | moment (written : String)
  | list (grows : Bool) (items : List Value)
  | table (origin : Origin) (entries : List (String × Value))
  deriving Repr

namespace Value

/-- The least number that rounds to none that a binary floating-point number of 64 bits holds. -/
def realBound : Nat := Nat.pow 2 1024 - Nat.pow 2 970

/-- The least number that a signed integer of 128 bits does not hold. -/
def wholeBound : Nat := Nat.pow 2 127

/-- A number, given by a mantissa and a power of ten, is small enough for a binary
floating-point number of 64 bits. The exact test is left for numbers near the bound. -/
def isFinite (mantissa exponent : Int) : Bool :=
  let m := mantissa.natAbs
  let top := (Nat.toDigits 10 m).length + exponent
  if m = 0 || top ≤ 308 then true
  else if 310 ≤ top then false
  else if 0 ≤ exponent then m * Nat.pow 10 exponent.toNat < realBound
  else m < realBound * Nat.pow 10 (-exponent).toNat

mutual

/-- The numbers in a value are those a reader can hold: integers of 128 bits, with a sign or
without, and finite reals. -/
def isHeld : Value → Bool
  | .whole n => n.natAbs < if 0 ≤ n then 2 * wholeBound else wholeBound + 1
  | .real m e => isFinite m e
  | .list _ items => allHeld items
  | .table _ entries => allEntriesHeld entries
  | .text _ | .truth _ | .unbounded | .noNumber | .moment _ => true

def allHeld : List Value → Bool
  | [] => true
  | v :: r => v.isHeld && allHeld r

/-- The numbers in the values of all of some entries are held. -/
def allEntriesHeld : List (String × Value) → Bool
  | [] => true
  | (_, v) :: r => v.isHeld && allEntriesHeld r

end

end Value

end AgdaConsole.Toml
