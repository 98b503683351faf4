import AgdaConsole.Text.Blank

namespace AgdaConsole.Text

/-- The word that ends, as a list of one. It counts if it has a character or has had a quote.
Its characters come last one first. -/
def closeWord (quoted : Bool) (word : List Char) : List (List Char) :=
  if !word.isEmpty || quoted then [word.reverse] else []

/-- Read the words of a line from inside a word.
`inside` says that a quote is open, `quoted` that the word has had a quote, and `word` holds
the characters of the word so far, last one first.
A quote opens or closes, a backslash takes the next character as it is, and a blank outside
quotes ends the word. -/
def readWords (inside quoted : Bool) (word : List Char) : List Char → List (List Char)
  | [] => closeWord quoted word
  | '"' :: r => readWords (!inside) true word r
  | ['\\'] => readWords inside quoted word []
  | '\\' :: c :: r => readWords inside quoted (c :: word) r
  | c :: r =>
    if isBlank c && !inside then closeWord quoted word ++ readWords false false [] r
    else readWords inside quoted (c :: word) r

def words (line : List Char) : List (List Char) := readWords false false [] line

end AgdaConsole.Text

namespace AgdaConsole

def splitWords (line : String) : List String := (Text.words line.toList).map String.ofList

end AgdaConsole
