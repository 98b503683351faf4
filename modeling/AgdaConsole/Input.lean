import AgdaConsole.Text.Blank

namespace AgdaConsole

/-- What a line of input asks for. -/
inductive Input
  | nothing
  | protocol (text : String)
  | shell (command : String)
  | clear
  | reset
  | source (text : String)
  deriving DecidableEq, Repr

/-- What a line asks for: a colon or an exclamation mark in front decides first, then the three
words that are commands of the console, and all else is source. -/
def Input.ofLine (line : String) : Input :=
  match Text.trim line.toList with
  | [] => .nothing
  | ':' :: r => .protocol (String.ofList (Text.trim r))
  | '!' :: r => .shell (String.ofList (Text.trim r))
  | t =>
    if t = "clear".toList || t = "c".toList then .clear
    else if t = "new".toList then .reset
    else .source (String.ofList t)

end AgdaConsole
