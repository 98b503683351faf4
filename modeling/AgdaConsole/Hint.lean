namespace AgdaConsole.Hint

def capacity : Nat := 100

/-- Remember a line after some others. An empty line and one like the last are not remembered,
and the oldest are forgotten. -/
def remember (lines : List String) (line : String) : List String :=
  if line.isEmpty || lines.getLast? == some line then lines
  else
    let all := lines ++ [line]
    all.drop (all.length - capacity)

/-- What is left of a text after its start, if it starts so. -/
def dropStart? (start s : List Char) : Option (List Char) :=
  if start.isPrefixOf s then some (s.drop start.length) else none

/-- The hint for a line with the cursor at a byte position: what is left of the newest line that
starts like it. There is none unless the cursor is at the end. -/
def hint? (lines : List String) (line : String) (pos : Nat) : Option String :=
  if line.isEmpty || pos < line.utf8ByteSize then none
  else
    match lines.reverse.findSome? fun l => dropStart? line.toList l.toList with
    | none | some [] => none
    | some rest => some (String.ofList rest)

def shown (hint : String) : String := "\x1b[38;5;8m" ++ hint ++ "\x1b[39m"

end AgdaConsole.Hint
