import SentenceSampler.Json.Fault
import SentenceSampler.Rule

/-!
Everything that can go wrong, by its cause, and the one wording of each cause.
-/
namespace SentenceSampler

/-- Why a file could not be read or written. -/
inductive FileFault where
  | missing
  | isDirectory
  | notDirectory
  | denied
  | nameTooLong
  | other (code : Nat) (description : String)
  | nulInName
  | notText
deriving DecidableEq, Repr

/-- The number of the fault, where the system gave it one. -/
def FileFault.code? : FileFault → Option Nat
  | .missing => some 2
  | .denied => some 13
  | .notDirectory => some 20
  | .isDirectory => some 21
  | .nameTooLong => some 36
  | .other code _ => some code
  | .nulInName => none
  | .notText => none

def FileFault.kind : FileFault → String
  | .missing => "NotFound"
  | .denied => "PermissionDenied"
  | .notDirectory => "NotADirectory"
  | .isDirectory => "IsADirectory"
  | .nameTooLong => "InvalidFilename"
  | .other _ _ => "Uncategorized"
  | .nulInName => "InvalidInput"
  | .notText => "InvalidData"

def FileFault.description : FileFault → String
  | .missing => "No such file or directory"
  | .denied => "Permission denied"
  | .notDirectory => "Not a directory"
  | .isDirectory => "Is a directory"
  | .nameTooLong => "File name too long"
  | .other _ description => description
  | .nulInName => "file name contained an unexpected NUL byte"
  | .notText => "stream did not contain valid UTF-8"

def FileFault.message (fault : FileFault) : String :=
  match fault.code? with
  | some code => fault.description ++ " (os error " ++ toString code ++ ")"
  | none => fault.description

/-- A line that is neither blank nor a comment and says nothing. -/
inductive LineFault where
  | notARule
  | unquotedBefore (symbol : String)
  | trailingText (text : String)
  | emptyRightSide
deriving DecidableEq, Repr

def LineFault.message : LineFault → String
  | .notARule => "expected `<LHS> ::= [\"symbol\", ...]`"
  | .unquotedBefore symbol => "unquoted text before \"" ++ symbol ++ "\""
  | .trailingText text => "unexpected trailing text `" ++ text ++ "`"
  | .emptyRightSide => "empty right-hand side"

/-- What makes rules no grammar, or a grammar not fit for what was asked of it. -/
inductive Defect where
  | emptyRule (lhs : Symbol)
  | noRules
  | unwritable (symbol : Symbol)
  | noNode (address : List Nat)
  | stated (reason : String)
deriving DecidableEq, Repr

def Defect.message : Defect → String
  | .emptyRule lhs => "rule for " ++ lhs ++ " has an empty right-hand side"
  | .noRules => "grammar defines no rules"
  | .unwritable symbol => "symbol " ++ Text.quoted symbol ++ " cannot be written as a rule line"
  | .noNode address => "no node at [" ++ ", ".intercalate (address.map toString) ++ "]"
  | .stated reason => reason

inductive Failure where
  | io (fault : FileFault)
  | parse (line : Nat) (fault : LineFault)
  | json (fault : Json.Fault)
  | invalidGrammar (defect : Defect)
  | invalidAxiom (symbol : Symbol)
  | unknownSymbol (symbol : Symbol)
  | emptyRuleSet (symbol : Symbol)
  | stepLimitExceeded (limit : Nat) (symbol : Symbol)
deriving DecidableEq, Repr

namespace Failure

def kind : Failure → String
  | .io _ => "Io"
  | .parse _ _ => "Parse"
  | .json _ => "Json"
  | .invalidGrammar _ => "InvalidGrammar"
  | .invalidAxiom _ => "InvalidAxiom"
  | .unknownSymbol _ => "UnknownSymbol"
  | .emptyRuleSet _ => "EmptyRuleSet"
  | .stepLimitExceeded _ _ => "StepLimitExceeded"

/-- What is wrong, without the words that tell its kind. -/
def detail : Failure → String
  | .io fault => fault.message
  | .parse line fault => "line " ++ toString line ++ ": " ++ fault.message
  | .json fault => fault.message
  | .invalidGrammar defect => defect.message
  | .invalidAxiom symbol => symbol
  | .unknownSymbol symbol => symbol
  | .emptyRuleSet symbol => symbol
  | .stepLimitExceeded limit symbol =>
    toString limit ++ " exceeded while expanding " ++ symbol

def heading : Failure → String
  | .io _ => "IO error: "
  | .parse _ _ => "Parse error: "
  | .json _ => "JSON error: "
  | .invalidGrammar _ => "Invalid grammar: "
  | .invalidAxiom _ => "Axiom is not the left-hand side of any rule: "
  | .unknownSymbol _ => "Unknown symbol: "
  | .emptyRuleSet _ => "No rule to expand non-terminal: "
  | .stepLimitExceeded _ _ => "Expansion step limit of "

def message (failure : Failure) : String := failure.heading ++ failure.detail

end Failure

/-- The value, or the complaint that there is none. -/
def require {α : Type} (value : Option α) (reason : String) : Except Failure α :=
  match value with
  | some value => .ok value
  | none => .error (.invalidGrammar (.stated reason))

/-! Failures as the command line shows them: the kind of each with its parts, every text in quotes. -/

def FileFault.inspected (fault : FileFault) : String :=
  let parts := "kind: " ++ fault.kind ++ ", message: " ++ Text.quoted fault.description ++ " \x7d"
  match fault.code? with
  | some code => "Os \x7b code: " ++ toString code ++ ", " ++ parts
  | none => "Error \x7b " ++ parts

/-- The parts of a failure between brackets, or between braces where they have names. -/
def Failure.parts : Failure → String
  | .io fault => "(" ++ fault.inspected ++ ")"
  | .json fault => "(Error(" ++ Text.quoted fault.message ++ "))"
  | .stepLimitExceeded limit symbol =>
    " \x7b limit: " ++ toString limit ++ ", symbol: " ++ Text.quoted symbol ++ " \x7d"
  | other => "(" ++ Text.quoted other.detail ++ ")"

def Failure.inspected (failure : Failure) : String := failure.kind ++ failure.parts

end SentenceSampler
