import AgdaConsole.Toml.Value

namespace AgdaConsole.Toml

/-- A key: the names that lead to a value from a table. -/
abbrev Key := List String

/-- Entries in which another value stands under a name that has one. -/
def replaceEntry (name : String) (v : Value) (entries : List (String × Value)) :
    List (String × Value) :=
  entries.map fun e => if e.1 = name then (name, v) else e

/-- The origin of the tables that are made on the way of a key. -/
def Origin.onWay (dotted : Bool) : Origin := if dotted then .dotted else .implied

/-- A key may pass through a table. Braces are closed for good, and a dotted key does not pass
through a table that has a header. -/
def Origin.letsPass (o : Origin) (dotted : Bool) : Bool :=
  match o with
  | .braces => false
  | .header => !dotted
  | .implied | .dotted => true

namespace Value

/-- Change what a key leads to in a table. Tables missing on the way are made, and of a list that
grows the last table is meant. -/
def within (dotted : Bool) (change : Value → Option Value) : Key → Value → Option Value
  | [], v => change v
  | k :: ks, .table o entries =>
    match entries.lookup k with
    | none =>
      (within dotted change ks (.table (.onWay dotted) [])).map fun v =>
        .table o (entries ++ [(k, v)])
    | some (.table inner es) =>
      if inner.letsPass dotted then
        (within dotted change ks (.table inner es)).map fun v =>
          .table o (replaceEntry k v entries)
      else none
    | some (.list true items) =>
      items.getLast?.bind fun last =>
        (within dotted change ks last).map fun v =>
          .table o (replaceEntry k (.list true (items.dropLast ++ [v])) entries)
    | some _ => none
  | _ :: _, _ => none

/-- Put a new value under a name in a table. A dotted key adds only to tables that dotted keys
made. -/
def addEntry (dotted : Bool) (name : String) (v : Value) : Value → Option Value
  | .table o entries =>
    if (o == .dotted) == dotted && (entries.lookup name).isNone then
      some (.table o (entries ++ [(name, v)]))
    else none
  | _ => none

def insert (t : Value) (key : Key) (v : Value) : Option Value :=
  key.getLast?.bind fun name =>
    within true (addEntry (key.length ≠ 1) name v) key.dropLast t

/-- Begin a table under a name. A table made on the way to another one is kept. -/
def beginTable (name : String) : Value → Option Value
  | .table o entries =>
    match entries.lookup name with
    | none => some (.table o (entries ++ [(name, .table .header [])]))
    | some (.table .implied es) => some (.table o (replaceEntry name (.table .header es) entries))
    | some _ => none
  | _ => none

/-- Begin one more table of a list that grows. -/
def beginItem (name : String) : Value → Option Value
  | .table o entries =>
    match entries.lookup name with
    | none => some (.table o (entries ++ [(name, .list true [.table .header []])]))
    | some (.list true items) =>
      some (.table o
        (replaceEntry name (.list true (items ++ [.table .header []])) entries))
    | some _ => none
  | _ => none

/-- Close a table that stands between braces. -/
def close : Value → Value
  | .table _ entries => .table .braces entries
  | v => v

def root : Value := .table .header []

end Value

end AgdaConsole.Toml
