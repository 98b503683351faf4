namespace AgdaConsole

/-- A character is blank when it has the Unicode property White_Space. -/
def isBlank (c : Char) : Bool :=
  let n := c.toNat
  (9 ≤ n && n ≤ 13) || n == 0x20 || n == 0x85 || n == 0xA0 || n == 0x1680 ||
    (0x2000 ≤ n && n ≤ 0x200A) || n == 0x2028 || n == 0x2029 || n == 0x202F || n == 0x205F ||
    n == 0x3000

namespace Text

def trimStart (s : List Char) : List Char := s.dropWhile isBlank

def trimEnd (s : List Char) : List Char := (s.reverse.dropWhile isBlank).reverse

def trim (s : List Char) : List Char := trimEnd (trimStart s)

/-- A text is blank when it has no character other than blanks. -/
def allBlank (s : List Char) : Bool := s.all isBlank

end Text

def trimmed (s : String) : String := String.ofList (Text.trim s.toList)

/-- A string is blank when it is empty or made of blanks. -/
def blankText (s : String) : Bool := Text.allBlank s.toList

end AgdaConsole
