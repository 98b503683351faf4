import AgdaConsole.CommandLine.Flag
import AgdaConsole.Text.Blank
import AgdaConsole.Text.Bytes
import AgdaConsole.Text.Lower

namespace AgdaConsole.Completion

def flags : List Flag :=
  [.file, .backend, .cmds, .rewrite, .expr, .interactionId, .place, .computeMode, .remove,
    .force, .whether]

def keywords : List String := ["new", "clear"]

/-- The words that are completed besides the names of files. -/
def vocabulary : List String :=
  Verb.names ++ allSpellings ++ (flags.map fun f => "--" ++ f.name) ++ keywords

/-- A word completes a start when its lower case starts with that of the start. -/
def completes (start word : String) : Bool :=
  (Text.lower start.toList).isPrefixOf (Text.lower word.toList)

/-- Put a word into a rising list of words, unless it is there. -/
def insertOnce (w : String) : List String → List String
  | [] => [w]
  | x :: r =>
    if w < x then w :: x :: r
    else if w = x then x :: r
    else x :: insertOnce w r

/-- The words that complete a start, rising by code point, in a folder with some files. -/
def candidates (files : List String) (start : String) : List String :=
  ((vocabulary ++ files).filter (completes start)).foldr insertOnce []

/-- A character that no word reaches across. -/
def isBreak (c : Char) : Bool := isBlank c || c == ':' || c == '!'

/-- The characters of a text that start before a byte position. -/
def before (pos : Nat) : List Char → List Char
  | [] => []
  | c :: r => if pos = 0 then [] else c :: before (pos - c.utf8Size) r

/-- The longest end of a text without a break. -/
def lastWord (s : List Char) : List Char := (s.reverse.takeWhile fun c => !isBreak c).reverse

/-- The words that complete the word in front of a byte position of a line, with the position
where that word starts. The empty word has none. -/
def complete (files : List String) (line : String) (pos : Nat) : Nat × List String :=
  let s := before pos line.toList
  let word := lastWord s
  (Text.byteCount s - Text.byteCount word,
    if word.isEmpty then [] else candidates files (String.ofList word))

/-- What a line editor is offered: the text that it shows, and the text that it puts in. -/
structure Offer where
  display : String
  replacement : String
  deriving DecidableEq, Repr

/-- A word is shown as it is put in. -/
def Offer.ofWord (w : String) : Offer := ⟨w, w⟩

/-- What a line editor is offered at a byte position of a line, with the position from which it
replaces the text. -/
def offers (files : List String) (line : String) (pos : Nat) : Nat × List Offer :=
  let (start, words) := complete files line pos
  (start, words.map Offer.ofWord)

end AgdaConsole.Completion
