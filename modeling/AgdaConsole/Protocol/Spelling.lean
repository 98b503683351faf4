namespace AgdaConsole

/-- A word that is no spelling of a value of its kind. -/
structure UnknownSpelling where
  kind : String
  value : String
  expected : List String
  deriving DecidableEq, Repr

def UnknownSpelling.message (u : UnknownSpelling) : String :=
  "unknown " ++ u.kind ++ " '" ++ u.value ++ "', expected one of: " ++
    String.intercalate ", " u.expected

/-- A type whose values the protocol writes as fixed words. -/
class Vocabulary (α : Type) where
  kind : String
  values : List α
  spelling : α → String
  standard : α

def readSpelling {α : Type} [v : Vocabulary α] (word : String) : Except UnknownSpelling α :=
  match v.values.find? fun a => v.spelling a == word with
  | some a => .ok a
  | none => .error ⟨v.kind, word, v.values.map v.spelling⟩

/-- How far the backend normalises what it shows. -/
inductive RewriteMode
  | asIs
  | instantiated
  | headNormal
  | simplified
  | normalised
  deriving DecidableEq, Repr

instance : Vocabulary RewriteMode where
  kind := "rewrite mode"
  values := [.asIs, .instantiated, .headNormal, .simplified, .normalised]
  spelling
    | .asIs => "AsIs"
    | .instantiated => "Instantiated"
    | .headNormal => "HeadNormal"
    | .simplified => "Simplified"
    | .normalised => "Normalised"
  standard := .simplified

/-- How the backend computes a normal form. -/
inductive ComputeMode
  | defaultCompute
  | ignoreAbstract
  | useShowInstance
  deriving DecidableEq, Repr

instance : Vocabulary ComputeMode where
  kind := "compute mode"
  values := [.defaultCompute, .ignoreAbstract, .useShowInstance]
  spelling
    | .defaultCompute => "DefaultCompute"
    | .ignoreAbstract => "IgnoreAbstract"
    | .useShowInstance => "UseShowInstance"
  standard := .defaultCompute

/-- What a file is compiled to. -/
inductive CompileBackend
  | ghc
  | ghcNoMain
  | latex
  | quickLatex
  deriving DecidableEq, Repr

instance : Vocabulary CompileBackend where
  kind := "backend"
  values := [.ghc, .ghcNoMain, .latex, .quickLatex]
  spelling
    | .ghc => "GHC"
    | .ghcNoMain => "GHCNoMain"
    | .latex => "LaTeX"
    | .quickLatex => "QuickLaTeX"
  standard := .ghcNoMain

/-- What happens to a file of highlighting data after it was read. -/
inductive TokenHighlighting
  | remove
  | keep
  deriving DecidableEq, Repr

instance : Vocabulary TokenHighlighting where
  kind := "token highlighting mode"
  values := [.remove, .keep]
  spelling
    | .remove => "Remove"
    | .keep => "Keep"
  standard := .keep

/-- Whether a term is given even where it does not fit. -/
inductive UseForce
  | withForce
  | withoutForce
  deriving DecidableEq, Repr

instance : Vocabulary UseForce where
  kind := "force mode"
  values := [.withForce, .withoutForce]
  spelling
    | .withForce => "WithForce"
    | .withoutForce => "WithoutForce"
  standard := .withoutForce

def spellBool (b : Bool) : String := if b then "True" else "False"

def spellingsOf (α : Type) [v : Vocabulary α] : List String := v.values.map v.spelling

def allSpellings : List String :=
  spellingsOf CompileBackend ++ spellingsOf RewriteMode ++ spellingsOf ComputeMode ++
    spellingsOf TokenHighlighting ++ spellingsOf UseForce

end AgdaConsole
