namespace AgdaConsole.Text

/-- Put a character in front of the first of some pieces. -/
def consFirst (c : Char) : List (List Char) → List (List Char)
  | [] => [[c]]
  | p :: ps => (c :: p) :: ps

/-- The pieces of a text between the occurrences of a separator.
There is always at least one, and a piece is empty where two separators meet. -/
def pieces (sep : Char) : List Char → List (List Char)
  | [] => [[]]
  | c :: r => if c = sep then [] :: pieces sep r else consFirst c (pieces sep r)

/-- The two sides of the first occurrence of a separator, if there is one. -/
def cutFirst (sep : Char) : List Char → Option (List Char × List Char)
  | [] => none
  | c :: r => if c = sep then some ([], r) else (cutFirst sep r).map fun (a, b) => (c :: a, b)

theorem pieces_ne_nil (sep : Char) (s : List Char) : pieces sep s ≠ [] := by
  cases s with
  | nil => simp [pieces]
  | cons c r =>
    rw [pieces]
    split
    · simp
    · cases pieces sep r <;> simp [consFirst]

/-- A text without the one carriage return it may end in. -/
def dropReturn (s : List Char) : List Char :=
  if s.getLast? = some '\r' then s.dropLast else s

/-- The lines of a text.
A newline ends a line and takes one carriage return before it along.
What follows the last newline is a line of its own only if it is not empty. -/
def linesOf (s : List Char) : List (List Char) :=
  let ps := pieces '\n' s
  let tail := ps.getLastD []
  ps.dropLast.map dropReturn ++ (if tail.isEmpty then [] else [tail])

end AgdaConsole.Text
