namespace AgdaConsole

/-- What the operating system refuses, or what never reaches it: a file that holds no text, and a
name or an argument with the character that ends names. -/
inductive OsError
  | notFound
  | notFolder
  | isFolder
  | brokenPipe
  | noSuchCall
  | notText
  | nulInName
  | nulInData
  deriving DecidableEq, Repr

/-- The number of an error, if the operating system gives it one. -/
def OsError.code? : OsError → Option Nat
  | .notFound => some 2
  | .notFolder => some 20
  | .isFolder => some 21
  | .brokenPipe => some 32
  | .noSuchCall => some 38
  | .notText | .nulInName | .nulInData => none

def OsError.text : OsError → String
  | .notFound => "No such file or directory"
  | .notFolder => "Not a directory"
  | .isFolder => "Is a directory"
  | .brokenPipe => "Broken pipe"
  | .noSuchCall => "Function not implemented"
  | .notText => "stream did not contain valid UTF-8"
  | .nulInName => "file name contained an unexpected NUL byte"
  | .nulInData => "nul byte found in provided data"

def OsError.message (e : OsError) : String :=
  match e.code? with
  | some n => e.text ++ " (os error " ++ toString n ++ ")"
  | none => e.text

/-- A text has the character that ends names. -/
def hasNul (s : String) : Bool := s.toList.contains '\x00'

end AgdaConsole
