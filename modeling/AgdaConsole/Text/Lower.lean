import AgdaConsole.Text.CaseTable
import AgdaConsole.Text.Interval

namespace AgdaConsole.Text

/-- A character is cased when it is a letter of one of the cases. -/
def isCased (c : Char) : Bool := inIntervals casedIntervals c.toNat

/-- A character that word boundaries between cased letters do not see. -/
def isCaseIgnorable (c : Char) : Bool := inIntervals caseIgnorableIntervals c.toNat

/-- The lower case of a character on its own.
The capital dotted I has a lower case of two characters, every other character one of one. -/
def lowerChar (c : Char) : List Char :=
  let n := c.toNat
  if n == 0x130 then ['i', Char.ofNat 0x307]
  else
    match lowerRuns.find? fun (first, last, step, _) =>
        first ≤ n && n ≤ last && (n - first) % step == 0 with
    | some (first, _, _, lower) => [Char.ofNat (lower + (n - first))]
    | none => [c]

/-- The first character that is not case-ignorable is a cased one. -/
def meetsCased (s : List Char) : Bool :=
  match s.dropWhile isCaseIgnorable with
  | [] => false
  | c :: _ => isCased c

/-- The lower case of a text whose earlier characters, last one first, are `before`.
A capital sigma at the end of a word has a lower case of its own. -/
def lowerAfter (before : List Char) : List Char → List Char
  | [] => []
  | c :: r =>
    (if c = 'Σ' then
      if meetsCased before && !meetsCased r then ['ς'] else ['σ']
    else lowerChar c) ++ lowerAfter (c :: before) r

/-- The lower case of a text by the full Unicode rules, those of no language in particular. -/
def lower (s : List Char) : List Char := lowerAfter [] s

end AgdaConsole.Text
