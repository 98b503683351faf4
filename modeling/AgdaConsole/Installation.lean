import AgdaConsole.Backend
import AgdaConsole.Disk

namespace AgdaConsole

/-- A program on a disk: the place where it stands, and the folder of the user who starts it. -/
structure Installation where
  disk : Disk
  folder : Place
  place : Place

namespace Installation

/-- The path of the program, if that is what a name or a path leads to. A name alone is searched
for, and a path is followed. -/
def resolve? (i : Installation) (executable : String) : Option String :=
  if executable.toList.contains '/' then
    match i.disk.locate i.folder executable with
    | .ok p =>
      if p ≠ i.place || (Disk.folderOnly? executable).isSome then none
      else if Path.isAbsolute executable.toList then some executable
      else Path.absolute? i.folder.path executable
    | .error _ => none
  else if i.place.getLast? = some executable then some i.place.path
  else none

def enter (i : Installation) (path : String) : Except OsError Place :=
  match i.disk.locate i.folder path with
  | .error e => .error e
  | .ok p =>
    match i.disk.node? p with
    | some .folder => .ok p
    | some _ => .error .notFolder
    | none => .error .notFound

def launch (i : Installation) (invocation : Invocation) : Except BackendError Launch :=
  match i.resolve? invocation.executable with
  | none => .error (.notFound invocation.executable)
  | some path =>
    if (invocation.workingDir :: invocation.includes).any hasNul then
      .error (.spawn path .nulInData)
    else
      match i.enter invocation.workingDir with
      | .error e => .error (.spawn path e)
      | .ok p => .ok ⟨path, p.path⟩

/-- The program as a backend, with what its runs do. -/
def backend (i : Installation) (reply : Nat → Reply) : Backend := { launch := i.launch, reply }

end Installation

end AgdaConsole
