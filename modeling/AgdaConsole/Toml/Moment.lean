import AgdaConsole.Toml.Number

namespace AgdaConsole.Toml

/-- The number that a text of some decimal digits is. -/
def fixed? (count : Nat) (s : List Char) : Option Nat :=
  if s.length = count && s.all Text.isDecimal then some (ofDigits 10 s) else none

def isBetween (lo hi : Nat) (s : List Char) : Bool :=
  match fixed? 2 s with
  | some n => lo ≤ n && n ≤ hi
  | none => false

def isLeapYear (year : Nat) : Bool := (year % 4 == 0 && year % 100 != 0) || year % 400 == 0

def daysOf (year month : Nat) : Nat :=
  if month == 2 then (if isLeapYear year then 29 else 28)
  else if month == 4 || month == 6 || month == 9 || month == 11 then 30
  else 31

/-- A text is a day of the calendar, as in 1979-05-27. -/
def isDate (s : List Char) : Bool :=
  match Text.pieces '-' s with
  | [y, m, d] =>
    match fixed? 4 y, fixed? 2 m with
    | some year, some month =>
      1 ≤ month && month ≤ 12 && isBetween 1 (daysOf year month) d
    | _, _ => false
  | _ => false

/-- A text is a number of seconds, with or without a fraction. -/
def isSecond (s : List Char) : Bool :=
  match Text.cutFirst '.' s with
  | some (a, b) => isBetween 0 60 a && !b.isEmpty && b.all Text.isDecimal
  | none => isBetween 0 60 s

/-- A text is a time of day, as in 07:32 or 07:32:00.5. -/
def isTime (s : List Char) : Bool :=
  match Text.pieces ':' s with
  | [h, m] => isBetween 0 23 h && isBetween 0 59 m
  | [h, m, t] => isBetween 0 23 h && isBetween 0 59 m && isSecond t
  | _ => false

/-- A text says how far a time is from that of Greenwich, as in Z or -07:30. -/
def isOffset (s : List Char) : Bool :=
  match s with
  | ['Z'] | ['z'] => true
  | '+' :: r | '-' :: r =>
    match Text.pieces ':' r with
    | [h, m] => isBetween 0 23 h && isBetween 0 59 m
    | _ => false
  | _ => false

def startsOffset (c : Char) : Bool := c = 'Z' || c = 'z' || c = '+' || c = '-'

/-- A text is a time of day that an offset may follow. -/
def isZonedTime (s : List Char) : Bool :=
  let zone := s.dropWhile fun c => !startsOffset c
  isTime (s.takeWhile fun c => !startsOffset c) && (zone.isEmpty || isOffset zone)

/-- A text is a day, a time of day, or both. -/
def isMoment (s : List Char) : Bool :=
  isDate s || isTime s ||
    match s.drop 10 with
    | c :: r => isDate (s.take 10) && (c = 'T' || c = 't' || c = ' ') && isZonedTime r
    | [] => false

end AgdaConsole.Toml
