namespace AgdaConsole.ModuleName

/-- The endings of the names of Agda files. -/
def suffixes : List String := [".lagda.tex", ".lagda.rst", ".lagda.md", ".lagda", ".agda"]

/-- A text without an ending, if it has the ending. -/
def dropEnd? (ending s : List Char) : Option (List Char) :=
  if ending.isSuffixOf s then some (s.take (s.length - ending.length)) else none

/-- The name of a file without its ending, if it is the name of an Agda file.
The first ending of the list that fits is taken. -/
def strip? (name : String) : Option String :=
  (suffixes.findSome? fun e => dropEnd? e.toList name.toList).map String.ofList

/-- The module in a file: the name of the file without its ending. -/
def ofFileName (name : String) : String := (strip? name).getD name

def hasSuffix (name : String) : Bool := suffixes.any fun e => e.toList.isSuffixOf name.toList

end AgdaConsole.ModuleName
