import AgdaConsole.ModuleName
import AgdaConsole.SessionError

namespace AgdaConsole

/-- The source file that a session checks, in memory and on disk.
There is nothing on disk when the folder of the file has been removed. -/
structure Scratch where
  path : String
  header : String
  body : String
  disk : Option String
  deriving DecidableEq, Repr

namespace Scratch

/-- The text of a file: the header, a blank line and the body. -/
def render (header body : String) : String := header ++ "\n\n" ++ body

/-- A new file, whose header names the module after the file. -/
def create (path : String) : Scratch :=
  let header := "module " ++ ModuleName.ofFileName (Path.fileName path) ++ " where"
  ⟨path, header, "", some (render header "")⟩

def contents (s : Scratch) : String := render s.header s.body

/-- Replace the body. The file is written first, and where that fails nothing changes. -/
def write (s : Scratch) (body : String) : Except SessionError Unit × Scratch :=
  match s.disk with
  | none => (.error (.writeScratch s.path .notFound), s)
  | some _ => (.ok (), { s with body, disk := some (render s.header body) })

def append (s : Scratch) (text : String) : Except SessionError Unit × Scratch :=
  s.write (s.body ++ text ++ "\n\n")

def reset (s : Scratch) : Except SessionError Unit × Scratch := s.write ""

def importLine (prelude : String) : String :=
  "import " ++ ModuleName.ofFileName (Path.fileName prelude)

/-- Import the module of a file. The result is the absolute path of the folder of the file, for
a user who works in `folder`. -/
def importPrelude (s : Scratch) (folder prelude : String) :
    Except SessionError String × Scratch :=
  match s.append (importLine prelude) with
  | (.error e, s) => (.error e, s)
  | (.ok _, s) =>
    match Path.absolute? folder (Path.folderOf prelude) with
    | some dir => (.ok dir, s)
    | none => (.error (.prelude prelude), s)

/-- The file after its folder was removed from outside. -/
def loseFolder (s : Scratch) : Scratch := { s with disk := none }

def close (s : Scratch) : Except SessionError Unit :=
  match s.disk with
  | some _ => .ok ()
  | none => .error (.removeScratch s.path .notFound)

end Scratch

end AgdaConsole
