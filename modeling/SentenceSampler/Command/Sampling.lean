import SentenceSampler.Command.Options
import SentenceSampler.Command.Screen
import SentenceSampler.Tree.Printed

/-!
Samples of one grammar after the other, with one chooser for all of them, and what is printed of
them.
-/
namespace SentenceSampler.Command

open Journal

/-- The runs of one grammar, up to the first that does not finish. -/
def series {σ ω : Type} (generator : Generator) (setting : Expansion.Setting σ ω) (patience : Nat)
    (blank : ω) : Nat → σ → List (Generator.Run σ ω)
  | 0, _ => []
  | count + 1, chooser =>
    let run := generator.generate setting patience chooser blank
    match run.ending with
    | .finished _ => run :: series generator setting patience blank count run.chooser
    | _ => [run]

/-- A number of steps as a limit; zero stands for none. -/
def limitOf (maxSteps : Nat) : Generator := ⟨if maxSteps = 0 then none else some maxSteps⟩

mutual

/-- A tree as JSON, the members of every node in the order of their keys. -/
def treeRecord : Tree → Json.Value
  | .node label [] => .object [("label", .text label)]
  | .node label (child :: siblings) =>
    .object [("children", .list (treeRecords (child :: siblings))), ("label", .text label)]

def treeRecords : List Tree → List Json.Value
  | [] => []
  | tree :: trees => treeRecord tree :: treeRecords trees

end

/-- A sample as JSON, its members in the order of their keys. -/
def sampleRecord (grammar : Grammar) (tree : Tree) : Json.Value :=
  .object [("axiom", .text grammar.start), ("text", .text tree.text), ("tree", treeRecord tree),
    ("yield", .list (tree.yield.map .text))]

def sampleLines (format : Format) (grammar : Grammar) (tree : Tree) : List String :=
  match format with
  | .text => ["sampled tree: " ++ tree.shown, "yield: " ++ Text.quotedList tree.yield,
      "text: " ++ tree.text, ""]
  | .json => [(sampleRecord grammar tree).compact]

def grammarLines (format : Format) (grammar : Grammar) : List String :=
  match format with
  | .text => ["grammar: " ++ grammar.shown, ""]
  | .json => []

/-- The progress of a run, the latest first, is kept if it is printed or goes into the journal. -/
def progressWatcher (options : Options) : Watcher (List String) :=
  if options.trace || options.verbose then collect fun report => [report.progress]
  else fun _ seen => seen

variable {σ : Type}

/-- What a run prints: its progress if that is traced, and its tree if it finished. -/
def runLines (options : Options) (grammar : Grammar) (run : Generator.Run σ (List String)) :
    List String :=
  (if options.trace then run.seen.reverse else []) ++
    match run.ending with
    | .finished tree => sampleLines options.format grammar tree
    | _ => []

/-- What a run notes: its progress unless that is traced, and its end. -/
def runRecords (options : Options) (run : Generator.Run σ (List String)) : List Record :=
  (if options.trace then []
    else run.seen.reverse.map fun line => ⟨.debug, .generator, line⟩) ++ run.endRecords

def exitOf (ending : Generator.Ending) : Exit :=
  match ending with
  | .finished _ => .success
  | .failed cause => .failure cause.inspected
  | .interrupted => .failure "interrupted"

def announcement (options : Options) (grammar : Grammar) : Record :=
  ⟨.info, .program, "sampling " ++ toString options.count ++ " trees from axiom " ++ grammar.start⟩

/-- What the runs of one grammar leave behind. -/
def seriesScreen (options : Options) (grammar : Grammar)
    (runs : List (Generator.Run σ (List String))) : Screen where
  output :=
    linesOf (grammarLines options.format grammar ++ runs.flatMap (runLines options grammar))
  journal := announcement options grammar :: runs.flatMap (runRecords options)
  exit := match runs.getLast? with
    | none => .success
    | some run => exitOf run.ending

/-- All runs of one grammar. -/
def runsOf (options : Options) (choose : Chooser σ) (patience : Nat) (grammar : Grammar)
    (chooser : σ) : List (Generator.Run σ (List String)) :=
  series (limitOf options.maxSteps) ⟨grammar, choose, progressWatcher options⟩ patience []
    options.count chooser

/-- Grammar after grammar; each goes on with the chooser the one before has left. -/
def samplingScreen (options : Options) (choose : Chooser σ) (patience : Nat) :
    List Grammar → σ → Screen
  | [], _ => .empty
  | grammar :: later, chooser =>
    let runs := runsOf options choose patience grammar chooser
    let chooser := (runs.getLast?.map Generator.Run.chooser).getD chooser
    (seriesScreen options grammar runs).andThen fun _ =>
      samplingScreen options choose patience later chooser

end SentenceSampler.Command
