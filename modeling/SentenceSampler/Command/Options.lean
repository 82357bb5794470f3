import SentenceSampler.Sample

/-!
What the command line can ask for.
-/
namespace SentenceSampler.Command

/-- How samples are written. -/
inductive Format where
  | text
  | json
deriving DecidableEq, Repr

def Format.ofName? : String → Option Format
  | "text" => some .text
  | "json" => some .json
  | _ => none

/-- The options of sampling, each with its value where it is not given. -/
structure Options where
  file : Option String := none
  builtin : Option Sample := none
  start : Option Symbol := none
  count : Nat := 3
  seed : Option UInt64 := none
  maxSteps : Nat := 10000
  trace : Bool := false
  format : Format := .text
  verbose : Bool := false
deriving DecidableEq, Repr

/-- A built-in grammar that is to be written, to a file or to the screen. -/
structure Export where
  sample : Sample
  json : Bool
  output : Option String
deriving DecidableEq, Repr

/-- Sampling with some options, or an export; of the options given before it only verbosity counts
for an export. -/
inductive Request where
  | sampling (options : Options)
  | exporting (verbose : Bool) (wanted : Export)
deriving DecidableEq, Repr

/-- The texts that explain the program. -/
inductive Page where
  | help
  | exportHelp
  | version
deriving DecidableEq, Repr

/-- What keeps the arguments from being a request. -/
inductive Refusal where
  | explained (page : Page)
  | unexpected (argument : String)
  | repeated (name : String)
  | valueMissing (name : String)
  | valueNotTaken (name : String)
  | valueInvalid (value name : String)
  | conflict
  | sampleMissing
deriving DecidableEq, Repr

end SentenceSampler.Command
