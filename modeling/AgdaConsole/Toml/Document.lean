import AgdaConsole.Toml.Moment
import AgdaConsole.Toml.Quoted
import AgdaConsole.Toml.Table

namespace AgdaConsole.Toml

/-- A blank within a line. -/
def isGap (c : Char) : Bool := c = ' ' || c = '\t'

/-- A text without the blanks of the line it starts with. -/
def skipGap (s : List Char) : List Char := s.dropWhile isGap

/-- Read to the end of a line, from inside a comment or not. -/
def endLine (comment : Bool) : List Char → Option (List Char)
  | [] => some []
  | '\n' :: r => some r
  | '\r' :: '\n' :: r => some r
  | c :: r =>
    if comment then (if isPlain c then endLine true r else none)
    else if isGap c then endLine false r
    else if c = '#' then endLine true r
    else none

/-- Skip blanks, ends of lines and comments, from inside a comment or not. -/
def skipLines (comment : Bool) : List Char → Option (List Char)
  | [] => some []
  | '\n' :: r => skipLines false r
  | '\r' :: '\n' :: r => skipLines false r
  | c :: r =>
    if comment then (if isPlain c then skipLines true r else none)
    else if isGap c then skipLines false r
    else if c = '#' then skipLines true r
    else some (c :: r)

/-- A character of a name without quotes. -/
def isBare (c : Char) : Bool :=
  ('a' ≤ c && c ≤ 'z') || ('A' ≤ c && c ≤ 'Z') || Text.isDecimal c || c = '_' || c = '-'

def readName (s : List Char) : Option (String × List Char) :=
  match s with
  | '"' :: r => (readBasic r).map fun (n, r) => (String.ofList n, r)
  | '\'' :: r => (readLiteral r).map fun (n, r) => (String.ofList n, r)
  | _ =>
    let n := s.takeWhile isBare
    if n.isEmpty then none else some (String.ofList n, s.dropWhile isBare)

/-- Read a key of at most `fuel` names, and the blanks around it. -/
def readKeyWithin : Nat → List Char → Option (Key × List Char)
  | 0, _ => none
  | fuel + 1, s =>
    match readName (skipGap s) with
    | none => none
    | some (name, r) =>
      match skipGap r with
      | '.' :: r => (readKeyWithin fuel r).map fun (key, r) => (name :: key, r)
      | r => some ([name], r)

/-- Read a key and the blanks around it. -/
def readKey (s : List Char) : Option (Key × List Char) := readKeyWithin (s.length + 1) s

/-- A character at which a word ends. -/
def endsWord (c : Char) : Bool :=
  isGap c || c = '\n' || c = '\r' || c = ',' || c = ']' || c = '}' || c = '#'

def ofWord? (w : List Char) : Option Value :=
  if w = "true".toList then some (.truth true)
  else if w = "false".toList then some (.truth false)
  else if isMoment w then some (.moment (String.ofList w))
  else ((whole? w).map .whole).or (real? w)

/-- The word at the start of a text and what follows it. A space between a day and a time belongs
to the word. -/
def cutWord (s : List Char) : List Char × List Char :=
  let w := s.takeWhile fun c => !endsWord c
  match s.dropWhile fun c => !endsWord c with
  | ' ' :: c :: r =>
    if isDate w && Text.isDecimal c then
      (w ++ ' ' :: (c :: r).takeWhile fun c => !endsWord c,
        (c :: r).dropWhile fun c => !endsWord c)
    else (w, ' ' :: c :: r)
  | r => (w, r)

/-- Read a value that has no parts. -/
def readScalar (s : List Char) : Option (Value × List Char) :=
  match s with
  | '"' :: _ | '\'' :: _ => (readQuoted s).map fun (t, r) => (.text (String.ofList t), r)
  | _ =>
    let (w, r) := cutWord s
    (ofWord? w).map fun v => (v, r)

/-- Read a key and the equals sign after it, with the blanks around them. -/
def readKeySign (s : List Char) : Option (Key × List Char) :=
  match readKey s with
  | some (key, '=' :: r) => some (key, skipGap r)
  | _ => none

/-- Read a key between braces and the equals sign after it.
Lines may end and comments may stand on either side of the sign, but not within the key. -/
def readInnerKeySign (s : List Char) : Option (Key × List Char) :=
  match readKey s with
  | none => none
  | some (key, r) =>
    match skipLines false r with
    | some ('=' :: r) => (skipLines false r).map fun r => (key, r)
    | _ => none

mutual

/-- Read a value within `fuel` steps, inside at most `depth` brackets and braces. -/
def readValue : Nat → Nat → List Char → Option (Value × List Char)
  | 0, _, _ => none
  | fuel + 1, depth, s =>
    match s, depth with
    | '[' :: r, depth + 1 => readItems fuel depth [] r
    | '{' :: r, depth + 1 => readEntries fuel depth .root r
    | '[' :: _, 0 | '{' :: _, 0 => none
    | s, _ => readScalar s

/-- Read the rest of a list after some items. -/
def readItems : Nat → Nat → List Value → List Char → Option (Value × List Char)
  | 0, _, _, _ => none
  | fuel + 1, depth, items, s =>
    match skipLines false s with
    | none => none
    | some (']' :: r) => some (.list false items, r)
    | some r =>
      match readValue fuel depth r with
      | none => none
      | some (v, r) =>
        match skipLines false r with
        | some (',' :: r) => readItems fuel depth (items ++ [v]) r
        | some (']' :: r) => some (.list false (items ++ [v]), r)
        | _ => none

/-- Read the rest of a table between braces after some entries. -/
def readEntries : Nat → Nat → Value → List Char → Option (Value × List Char)
  | 0, _, _, _ => none
  | fuel + 1, depth, t, s =>
    match skipLines false s with
    | none => none
    | some ('}' :: r) => some (t.close, r)
    | some r =>
      match readInnerKeySign r with
      | none => none
      | some (key, r) =>
        match readValue fuel depth r with
        | none => none
        | some (v, r) =>
          match t.insert key v, skipLines false r with
          | some t, some (',' :: r) => readEntries fuel depth t r
          | some t, some ('}' :: r) => some (t.close, r)
          | _, _ => none

end

/-- The number of brackets and braces that a value may stand in. -/
def maxDepth : Nat := 80

/-- What a line of a document does: begin a table, begin an item of a list, or add an entry. -/
inductive Statement
  | table (key : Key)
  | item (key : Key)
  | entry (key : Key) (value : Value)
  deriving Repr

/-- Read a statement, which starts with no blank. -/
def readStatement (s : List Char) : Option (Statement × List Char) :=
  match s with
  | '[' :: '[' :: r =>
    match readKey r with
    | some (key, ']' :: ']' :: r) => some (.item key, r)
    | _ => none
  | '[' :: r =>
    match readKey r with
    | some (key, ']' :: r) => some (.table key, r)
    | _ => none
  | _ =>
    match readKeySign s with
    | none => none
    | some (key, r) =>
      (readValue (2 * r.length + 2) maxDepth r).map fun (v, r) => (.entry key v, r)

/-- Read at most `fuel` statements, each on a line of its own. -/
def readStatements : Nat → List Char → Option (List Statement)
  | 0, _ => none
  | fuel + 1, s =>
    match skipLines false s with
    | none => none
    | some [] => some []
    | some r =>
      match readStatement r with
      | none => none
      | some (st, r) =>
        match endLine false r with
        | none => none
        | some r => (readStatements fuel r).map fun sts => st :: sts

/-- The table that statements have made, and the key of the table that entries go to. -/
structure Draft where
  table : Value
  here : Key

def Draft.step (d : Draft) : Statement → Option Draft
  | .table key =>
    key.getLast?.bind fun name =>
      (d.table.within false (Value.beginTable name) key.dropLast).map fun t => ⟨t, key⟩
  | .item key =>
    key.getLast?.bind fun name =>
      (d.table.within false (Value.beginItem name) key.dropLast).map fun t => ⟨t, key⟩
  | .entry key v =>
    (d.table.within false (fun t => t.insert key v) d.here).map fun t => ⟨t, d.here⟩

/-- A text without a mark of the byte order in front. -/
def dropMark : List Char → List Char
  | '\uFEFF' :: r => r
  | s => s

def read? (s : List Char) : Option Value :=
  let s := dropMark s
  match readStatements (s.length + 1) s with
  | none => none
  | some sts => (sts.foldlM Draft.step ⟨.root, []⟩).map Draft.table

end AgdaConsole.Toml
