import AgdaConsole.Protocol.Range
import AgdaConsole.Protocol.Spelling

namespace AgdaConsole

/-- The interaction commands of the backend. -/
inductive Verb
  | compile
  | load
  | constraints
  | metas
  | showModuleContentsToplevel
  | searchAboutToplevel
  | solveAll
  | solveOne
  | autoAll
  | autoOne
  | auto
  | inferToplevel
  | computeToplevel
  | loadHighlightingInfo
  | tokenHighlighting
  | highlight
  | give
  | refine
  | intro
  | refineOrIntro
  | context
  | helperFunction
  | infer
  | goalType
  | elaborateGive
  | goalTypeContext
  | goalTypeContextInfer
  | goalTypeContextCheck
  | showModuleContents
  | makeCase
  | whyInScope
  | compute
  | whyInScopeToplevel
  | showVersion
  | abort
  deriving DecidableEq, Repr

/-- A hole of a file, the place it stands at, and the expression typed into it. -/
structure Goal where
  id : UInt32
  range : Range
  expr : String
  deriving DecidableEq, Repr

/-- A place in the argument list of a command.
The place of the file repeats the file of the envelope. -/
inductive Slot
  | file
  | backend
  | options
  | rewrite
  | compute
  | remove
  | force
  | whether
  | goal
  | expr
  deriving DecidableEq, Repr

/-- What stands at a place of the argument list. -/
def Slot.Value : Slot → Type
  | .file => Unit
  | .backend => CompileBackend
  | .options => List String
  | .rewrite => RewriteMode
  | .compute => ComputeMode
  | .remove => TokenHighlighting
  | .force => UseForce
  | .whether => Bool
  | .goal => Goal
  | .expr => String

instance Slot.decEqValue : (s : Slot) → DecidableEq s.Value
  | .file => inferInstanceAs (DecidableEq Unit)
  | .backend => inferInstanceAs (DecidableEq CompileBackend)
  | .options => inferInstanceAs (DecidableEq (List String))
  | .rewrite => inferInstanceAs (DecidableEq RewriteMode)
  | .compute => inferInstanceAs (DecidableEq ComputeMode)
  | .remove => inferInstanceAs (DecidableEq TokenHighlighting)
  | .force => inferInstanceAs (DecidableEq UseForce)
  | .whether => inferInstanceAs (DecidableEq Bool)
  | .goal => inferInstanceAs (DecidableEq Goal)
  | .expr => inferInstanceAs (DecidableEq String)

namespace Verb

/-- The commands in the order in which they are listed. -/
def all : List Verb :=
  [.compile, .load, .constraints, .metas, .showModuleContentsToplevel, .searchAboutToplevel,
    .solveAll, .solveOne, .autoAll, .autoOne, .auto, .inferToplevel, .computeToplevel,
    .loadHighlightingInfo, .tokenHighlighting, .highlight, .give, .refine, .intro,
    .refineOrIntro, .context, .helperFunction, .infer, .goalType, .elaborateGive,
    .goalTypeContext, .goalTypeContextInfer, .goalTypeContextCheck, .showModuleContents,
    .makeCase, .whyInScope, .compute, .whyInScopeToplevel, .showVersion, .abort]

theorem mem_all (v : Verb) : v ∈ all := by cases v <;> decide

/-- The name the protocol gives a command. -/
def name : Verb → String
  | .compile => "compile"
  | .load => "load"
  | .constraints => "constraints"
  | .metas => "metas"
  | .showModuleContentsToplevel => "show_module_contents_toplevel"
  | .searchAboutToplevel => "search_about_toplevel"
  | .solveAll => "solveAll"
  | .solveOne => "solveOne"
  | .autoAll => "autoAll"
  | .autoOne => "autoOne"
  | .auto => "auto"
  | .inferToplevel => "infer_toplevel"
  | .computeToplevel => "compute_toplevel"
  | .loadHighlightingInfo => "load_highlighting_info"
  | .tokenHighlighting => "tokenHighlighting"
  | .highlight => "highlight"
  | .give => "give"
  | .refine => "refine"
  | .intro => "intro"
  | .refineOrIntro => "refine_or_intro"
  | .context => "context"
  | .helperFunction => "helper_function"
  | .infer => "infer"
  | .goalType => "goal_type"
  | .elaborateGive => "elaborate_give"
  | .goalTypeContext => "goal_type_context"
  | .goalTypeContextInfer => "goal_type_context_infer"
  | .goalTypeContextCheck => "goal_type_context_check"
  | .showModuleContents => "show_module_contents"
  | .makeCase => "make_case"
  | .whyInScope => "why_in_scope"
  | .compute => "compute"
  | .whyInScopeToplevel => "why_in_scope_toplevel"
  | .showVersion => "show_version"
  | .abort => "abort"

def names : List String := all.map name

def ofName? (n : String) : Option Verb := all.find? fun v => v.name == n

def about : Verb → String
  | .compile => "Compile agda code in a file"
  | .load => "Load a file and type check it"
  | .constraints => "Check constraints"
  | .metas => "Show all goals in a file"
  | .showModuleContentsToplevel => "List all module contents"
  | .searchAboutToplevel => "Search about a keyword"
  | .solveAll => "Solve all constraints in a file"
  | .solveOne => "Solve one constraint in a given expression"
  | .autoAll => "Automatic proof search, entire file"
  | .autoOne => "Automatic proof search, specific hole"
  | .auto => "Automatic proof search, specific hole"
  | .inferToplevel => "Infer the type of an expression"
  | .computeToplevel => "Compute the normal form, whole file"
  | .loadHighlightingInfo => "Load highlighting info for a file"
  | .tokenHighlighting => "Highlight tokens"
  | .highlight => "Highlight an expression in a goal"
  | .give => "Fill a goal"
  | .refine => "Refine: makes new holes for missing arguments"
  | .intro => "Introduce a constructor or lambda"
  | .refineOrIntro => "Refine, or introduce when the goal is empty"
  | .context => "Context of the goal"
  | .helperFunction => "Type of a helper function that would solve the goal"
  | .infer => "Infer type"
  | .goalType => "Goal type"
  | .elaborateGive => "Check the expression against the goal and return the elaborated term"
  | .goalTypeContext => "Current goal and context"
  | .goalTypeContextInfer =>
    "Current goal and context, plus the inferred type of an expression"
  | .goalTypeContextCheck =>
    "Current goal and context, checking the expression against the goal"
  | .showModuleContents => "Top-level names of a module, in the scope of the goal"
  | .makeCase => "Pattern match on variables (case split)"
  | .whyInScope => "Explain why a name is in scope"
  | .compute => "Compute the normal form of the selection or the expression"
  | .whyInScopeToplevel => "Explain why a name is in scope, entire file"
  | .showVersion => "Show the backend version"
  | .abort => "Abort the current action"

def layout : Verb → List Slot
  | .compile => [.backend, .file, .options]
  | .load => [.file, .options]
  | .loadHighlightingInfo => [.file]
  | .tokenHighlighting => [.file, .remove]
  | .constraints | .metas | .autoAll | .showVersion | .abort => []
  | .showModuleContentsToplevel | .searchAboutToplevel | .inferToplevel => [.rewrite, .expr]
  | .computeToplevel => [.compute, .expr]
  | .whyInScopeToplevel => [.expr]
  | .solveAll => [.rewrite]
  | .autoOne | .auto | .highlight | .refine | .makeCase | .whyInScope => [.goal]
  | .give => [.force, .goal]
  | .intro | .refineOrIntro => [.whether, .goal]
  | .solveOne | .context | .helperFunction | .infer | .goalType | .elaborateGive
  | .goalTypeContext | .goalTypeContextInfer | .goalTypeContextCheck | .showModuleContents =>
    [.rewrite, .goal]
  | .compute => [.compute, .goal]

/-- How much the backend sends back about highlighting. -/
inductive Feedback
  | silent
  | nonInteractive
  deriving DecidableEq, Repr

def Feedback.name : Feedback → String
  | .silent => "None"
  | .nonInteractive => "NonInteractive"

def feedback : Verb → Feedback
  | .showModuleContentsToplevel | .computeToplevel => .silent
  | _ => .nonInteractive

/-- What the arguments of a command must contain. -/
inductive Demand
  | nothing
  | target
  | expression
  deriving DecidableEq, Repr

/-- A goal command that looks at a term needs a range or an expression, and one on the top
level of a file that looks at a term needs an expression. -/
def demand : Verb → Demand
  | .solveOne | .give | .infer | .elaborateGive | .goalTypeContextInfer
  | .goalTypeContextCheck | .showModuleContents | .helperFunction | .whyInScope | .compute =>
    .target
  | .inferToplevel | .computeToplevel | .searchAboutToplevel | .whyInScopeToplevel =>
    .expression
  | _ => .nothing

end Verb

end AgdaConsole
