import AgdaConsole.Text.Word

namespace AgdaConsole.Shell

/-- The shell of the outer layer, where no processes are started: `echo` shows its words, and all
other commands show nothing. Everything below that layer takes any shell, as `Host.shell`. -/
def output (command : String) : String :=
  match splitWords command with
  | "echo" :: words => String.intercalate " " words ++ "\n"
  | _ => ""

end AgdaConsole.Shell
