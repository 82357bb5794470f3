import SentenceSampler.Chooser.Keystream
import SentenceSampler.Command.Arguments
import SentenceSampler.Command.Page
import SentenceSampler.Command.Sampling
import SentenceSampler.Grammar.Document

/-!
The program of the command line. What it leaves behind is a function of its arguments, of what comes
of the one file it may read or write, and of the seed it is given for want of one in its arguments.
-/
namespace SentenceSampler.Command

/-- What is left to do: nothing, read a file, or write one. -/
inductive Task where
  | done (screen : Screen)
  | load (path : String) (next : Except FileFault String → Screen)
  | save (path contents : String) (next : Option FileFault → Screen)

/-- What reading a file and writing one lead to. -/
structure Files where
  load : String → Except FileFault String
  save : String → String → Option FileFault

def Task.screen (files : Files) : Task → Screen
  | .done screen => screen
  | .load path next => next (files.load path)
  | .save path contents next => next (files.save path contents)

/-- What is shown before the samples where no grammar is asked for. -/
def introduction : List String :=
  let tokens := ["My", "name", "is", "Bond", ",", "James", "Bond", "."]
  [Text.quotedList tokens, Sentence.join tokens, ""]

/-- Grammars that were built, or the failure of the first that was not, with the records of the
building so far. -/
structure Built where
  records : List Journal.Record
  grammars : Except Failure (List Grammar)

/-- One more grammar in front, if it is one. -/
def Built.add (records : List Journal.Record) (grammar : Except Failure Grammar)
    (later : Unit → Built) : Built :=
  match grammar with
  | .error cause => ⟨records, .error cause⟩
  | .ok grammar =>
    let later := later ()
    ⟨records ++ later.records, later.grammars.map (grammar :: ·)⟩

def Built.none : Built := ⟨[], .ok []⟩

def Built.ofSamples (asked : Option Symbol) : List Sample → Built
  | [] => .none
  | sample :: later =>
    let grammar := sample.grammar asked
    .add (Grammar.buildRecords grammar) grammar fun _ => .ofSamples asked later

def Built.ofFile (path : String) (contents : Except FileFault String) (asked : Option Symbol) :
    Built :=
  .add (Grammar.fileRecords path contents asked) (Grammar.ofFile path contents asked) fun _ => .none

/-- What is left behind before the first sample. -/
def Built.screen (built : Built) (output : List String) : Screen where
  output := linesOf output
  journal := built.records
  exit := match built.grammars with
    | .ok _ => .success
    | .error cause => .failure cause.inspected

variable {σ : Type}

/-- All grammars are built before the first of them is sampled. -/
def builtScreen (options : Options) (choose : Chooser σ) (patience : Nat) (chooser : σ)
    (output : List String) (built : Built) : Screen :=
  ((built.screen output).andThen fun _ =>
    samplingScreen options choose patience (built.grammars.toOption.getD []) chooser).keepJournal
      options.verbose

def samplingTask (options : Options) (choose : Chooser σ) (patience : Nat) (chooser : σ) : Task :=
  let screen := builtScreen options choose patience chooser
  match options.file, options.builtin with
  | some path, _ => .load path fun contents => screen [] (.ofFile path contents options.start)
  | none, some sample => .done (screen [] (.ofSamples options.start [sample]))
  | none, none => .done (screen introduction (.ofSamples options.start Sample.all))

/-- The text of an exported grammar. -/
def Export.text (wanted : Export) (grammar : Grammar) : Except Failure String :=
  if wanted.json then .ok grammar.toJson else grammar.toRuleLines

def savedLine (wanted : Export) (path : String) : String :=
  "Created " ++ wanted.sample.name ++ " grammar at: " ++ path

/-- A built-in grammar is printed as it stands, or written to a file and that told. -/
def exportTask (verbose : Bool) (wanted : Export) : Task :=
  let grammar := wanted.sample.grammar none
  let screen (output : List String) (exit : Exit) : Screen :=
    Screen.keepJournal verbose ⟨output, Grammar.buildRecords grammar, exit⟩
  match grammar.bind wanted.text with
  | .error cause => .done (screen [] (.failure cause.inspected))
  | .ok text => match wanted.output with
    | none => .done (screen [text] .success)
    | some path => .save path text fun
      | none => screen (linesOf [savedLine wanted path]) .success
      | some fault => screen [] (.failure fault.inspected)

def refusalScreen : Refusal → Screen
  | .explained page => ⟨linesOf page.lines, [], .success⟩
  | refusal => ⟨[], [], .misuse refusal.message⟩

/-- More rejected words in a row, and more expansions without a limit, than anyone waits for. -/
def patience : Nat := Nat.pow 2 62

/-- The task that arguments ask for; `seed` stands in for a seed they do not give. -/
def Task.ofArguments (seed : UInt64) (arguments : List String) : Task :=
  match Request.ofArguments arguments with
  | .error refusal => .done (refusalScreen refusal)
  | .ok (.exporting verbose wanted) => exportTask verbose wanted
  | .ok (.sampling options) =>
    samplingTask options (Uniform.choose Keystream.draw patience) patience
      (Keystream.ofSeed (options.seed.getD seed))

/-- What the program leaves behind. -/
def screenOf (files : Files) (seed : UInt64) (arguments : List String) : Screen :=
  (Task.ofArguments seed arguments).screen files

end SentenceSampler.Command
