import AgdaConsole.OsError
import AgdaConsole.Path

namespace AgdaConsole

/-- What stands at a place of a disk: a folder, a file of text, or a file that holds no text. -/
inductive Node
  | folder
  | text (content : String)
  | binary
  deriving DecidableEq, Repr

/-- A place of a disk: the names that lead to it from the root. -/
abbrev Place := List String

/-- A disk. The root is a folder, and the other places that hold something are listed. -/
structure Disk where
  nodes : List (Place × Node)
  deriving DecidableEq, Repr

namespace Place

def path (p : Place) : String := "/" ++ String.intercalate "/" p

/-- The place that the names in a path lead to. -/
def ofPath (path : String) : Place :=
  (Path.body path.toList).filterMap fun part =>
    match part with
    | .name n => some (String.ofList n)
    | _ => none

end Place

namespace Disk

def node? (d : Disk) (p : Place) : Option Node :=
  if p = [] then some .folder else d.nodes.lookup p

/-- A disk on which something else stands at a place. -/
def put (d : Disk) (p : Place) (n : Node) : Disk :=
  ⟨(p, n) :: d.nodes.filter fun entry => entry.1 ≠ p⟩

/-- A disk on which something else stands at a place, with the folders that lead there. -/
def putWithin (d : Disk) (p : Place) (n : Node) : Disk :=
  let above := (List.range p.length).map p.take
  (above.foldl (fun d q => if (d.node? q).isSome then d else d.put q .folder) d).put p n

/-- Follow the parts of a path from a place. All places on the way must be folders. -/
def follow (d : Disk) (p : Place) : List Path.Part → Except OsError Place
  | [] => .ok p
  | part :: rest =>
    match d.node? p with
    | none => .error .notFound
    | some .folder =>
      match part with
      | .root => d.follow [] rest
      | .here => d.follow p rest
      | .up => d.follow p.dropLast rest
      | .name n => d.follow (p ++ [String.ofList n]) rest
    | some _ => .error .notFolder

/-- The error of a path that can lead to a folder only, where there is nothing. -/
def folderOnly? (path : String) : Option OsError :=
  match (Text.pieces '/' path.toList).getLast? with
  | some [] => some .isFolder
  | some ['.'] => some .notFound
  | _ => none

/-- The place that a path leads to from a folder. There may be nothing at it. -/
def locate (d : Disk) (folder : Place) (path : String) : Except OsError Place :=
  if path.isEmpty then .error .notFound
  else if hasNul path then .error .nulInName
  else d.follow (if Path.isAbsolute path.toList then [] else folder) (Path.body path.toList)

/-- What a path leads to from a folder. -/
def find (d : Disk) (folder : Place) (path : String) : Except OsError Node :=
  (d.locate folder path).bind fun p =>
    match d.node? p with
    | none => .error .notFound
    | some .folder => .ok .folder
    | some n => if (folderOnly? path).isSome then .error .notFolder else .ok n

/-- Write a text at the end of a file, which is made if there is none. -/
def appendText (d : Disk) (folder : Place) (path text : String) : Except OsError Disk :=
  (d.locate folder path).bind fun p =>
    match d.node? p, folderOnly? path with
    | some .folder, _ => .error .isFolder
    | some _, some _ => .error .notFolder
    | some (.text t), none => .ok (d.put p (.text (t ++ text)))
    | some .binary, none => .ok d
    | none, some e => .error e
    | none, none => .ok (d.put p (.text text))

end Disk

end AgdaConsole
