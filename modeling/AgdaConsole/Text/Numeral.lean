namespace AgdaConsole

namespace Text

def digitValue? (c : Char) : Option Nat :=
  if '0' ≤ c && c ≤ '9' then some (c.toNat - 48) else none

/-- The number written by some decimal digits after those that gave `value`. -/
def readDigits (value : Nat) : List Char → Option Nat
  | [] => some value
  | c :: r => (digitValue? c).bind fun d => readDigits (10 * value + d) r

/-- The number a text writes: an optional plus sign and at least one decimal digit. -/
def readNumber : List Char → Option Nat
  | [] => none
  | '+' :: r => if r.isEmpty then none else readDigits 0 r
  | s => readDigits 0 s

/-- The 32-bit number a text writes. -/
def readWord (s : List Char) : Option UInt32 :=
  match readNumber s with
  | some n => if h : n < UInt32.size then some (UInt32.ofNatLT n h) else none
  | none => none

end Text

/-- What is wrong with a text that should be a signed number of 64 bits. -/
inductive NumeralFault
  | empty
  | notDigit
  | tooLarge
  | tooSmall
  deriving DecidableEq, Repr

/-- What a reader of numbers says about a faulty text. -/
def NumeralFault.message : NumeralFault → String
  | .empty => "cannot parse integer from empty string"
  | .notDigit => "invalid digit found in string"
  | .tooLarge => "number too large to fit in target type"
  | .tooSmall => "number too small to fit in target type"

namespace Text

/-- Read the digits of a magnitude that stays below `limit`; the first fault from the left wins,
and a character that is no digit wins over the size. -/
def readMagnitude (limit : Nat) (excess : NumeralFault) (value : Nat) :
    List Char → Except NumeralFault Nat
  | [] => .ok value
  | c :: r =>
    match digitValue? c with
    | none => .error .notDigit
    | some d =>
      if 10 * value + d < limit then readMagnitude limit excess (10 * value + d) r else .error excess

/-- The least number that a signed machine word of 64 bits does not hold. -/
def signedLimit : Nat := 9223372036854775808

/-- The signed 64-bit number a text writes: an optional sign and at least one decimal digit. -/
def readSigned : List Char → Except NumeralFault Int
  | [] => .error .empty
  | ['+'] => .error .notDigit
  | ['-'] => .error .notDigit
  | '+' :: r => (readMagnitude signedLimit .tooLarge 0 r).map Int.ofNat
  | '-' :: r => (readMagnitude (signedLimit + 1) .tooSmall 0 r).map fun n => -(n : Int)
  | s => (readMagnitude signedLimit .tooLarge 0 s).map Int.ofNat

end Text

end AgdaConsole
