import AgdaConsole.Disk
import AgdaConsole.SessionError
import AgdaConsole.Text.Blank
import AgdaConsole.Text.Pieces

namespace AgdaConsole.History

/-- The name of the file that keeps the lines of earlier sessions. -/
def fileName : String := ".refl_history"

def pathIn (home : String) : String :=
  String.ofList (Path.append home.toList fileName.toList)

/-- The entries in the text of a history, oldest first. Blank lines are none. -/
def entriesOf (text : String) : List String :=
  ((Text.linesOf text.toList).map String.ofList).filter fun l => !blankText l

def written (entry : String) : String := entry ++ "\n"

/-- Make the history at a path, unless it is there. -/
def ensure (d : Disk) (folder : Place) (path : String) : Except SessionError Disk :=
  (d.appendText folder path "").mapError (.history path)

/-- Write an entry at the end of the history at a path. -/
def record (d : Disk) (folder : Place) (path entry : String) : Except SessionError Disk :=
  (d.appendText folder path (written entry)).mapError (.history path)

def entries (d : Disk) (folder : Place) (path : String) : Except SessionError (List String) :=
  match d.find folder path with
  | .error e => .error (.history path e)
  | .ok .folder => .error (.history path .isFolder)
  | .ok .binary => .error (.history path .notText)
  | .ok (.text t) => .ok (entriesOf t)

end AgdaConsole.History
