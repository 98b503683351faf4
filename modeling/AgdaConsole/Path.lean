import AgdaConsole.Text.Pieces

namespace AgdaConsole.Path

inductive Part
  | root
  | here
  | up
  | name (text : List Char)
  deriving DecidableEq, Repr

def isAbsolute (path : List Char) : Bool := path.head? == some '/'

/-- The part that a piece between slashes stands for; an empty piece and a dot stand for none. -/
def partOf? (piece : List Char) : Option Part :=
  if piece.isEmpty || piece == ['.'] then none
  else if piece == ['.', '.'] then some .up
  else some (.name piece)

/-- The parts of a path below its start. -/
def body (path : List Char) : List Part := (Text.pieces '/' path).filterMap partOf?

/-- The part a path starts with: the root, or a dot where the path has one in front. -/
def start (path : List Char) : List Part :=
  if isAbsolute path then [.root]
  else if (Text.pieces '/' path).head? == some ['.'] then [.here]
  else []

/-- The parts of a path.
A dot counts in front only, and slashes beyond the first and at the end do not count. -/
def parts (path : List Char) : List Part := start path ++ body path

/-- Two paths are the same when they have the same parts. -/
def same (a b : String) : Bool := parts a.toList == parts b.toList

/-- The last part of a path, if it is a name. -/
def fileName? (path : String) : Option String :=
  match (parts path.toList).getLast? with
  | some (.name n) => some (String.ofList n)
  | _ => none

def fileName (path : String) : String := (fileName? path).getD ""

/-- The pieces of a path without those at the end that stand for no part. -/
def dropIdle (pieces : List (List Char)) : List (List Char) :=
  (pieces.reverse.dropWhile fun p => (partOf? p).isNone).reverse

/-- The path of the folder that holds what a path leads to.
A path without a folder in front of its last part, and one without parts, is held here. -/
def folderOf (path : String) : String :=
  let s := path.toList
  let kept := dropIdle (Text.pieces '/' (if isAbsolute s then s.tail else s))
  let above := dropIdle kept.dropLast
  if kept.isEmpty then "."
  else if isAbsolute s then String.ofList ('/' :: List.intercalate ['/'] above)
  else if above.isEmpty then "."
  else String.ofList (List.intercalate ['/'] above)

/-- Append a piece to a path after a slash, unless the path ends in one. -/
def append (path piece : List Char) : List Char :=
  if path.isEmpty || path.getLast? == some '/' then path ++ piece else path ++ '/' :: piece

def Part.text : Part → List Char
  | .root => ['/']
  | .here => ['.']
  | .up => ['.', '.']
  | .name n => n

/-- Exactly two slashes at the start of a path are kept. -/
def hasDoubleRoot (path : List Char) : Bool :=
  match path with
  | '/' :: '/' :: '/' :: _ => false
  | '/' :: '/' :: _ => true
  | _ => false

/-- The path that a nonempty path is short for in a folder.
Dots and repeated slashes are dropped, while two dots and a slash at the end are kept. -/
def absoluteFrom (folder path : List Char) : List Char :=
  let base :=
    if hasDoubleRoot path then ['/', '/'] else if isAbsolute path then ['/'] else folder
  let full := (body path).foldl (fun p part => append p part.text) base
  if path.getLast? == some '/' then append full [] else full

/-- The absolute path of a path in a folder. The empty path has none. -/
def absolute? (folder path : String) : Option String :=
  if path.isEmpty then none
  else some (String.ofList (absoluteFrom folder.toList path.toList))

def emptyPathMessage : String := "cannot make an empty path absolute"

end AgdaConsole.Path
