import SentenceSampler.Generator

/-!
The journal: what the parts of the program note about their work.
-/
namespace SentenceSampler

namespace Journal

/-- Levels from the fewest records to the most. -/
inductive Level where
  | info
  | debug
  | trace
deriving DecidableEq, Repr

def Level.rank : Level → Nat
  | .info => 0
  | .debug => 1
  | .trace => 2

def Level.name : Level → String
  | .info => "INFO"
  | .debug => "DEBUG"
  | .trace => "TRACE"

/-- Whether a journal kept at a level holds records of another one. -/
def Level.admits (kept level : Level) : Bool := level.rank ≤ kept.rank

/-- Who notes something. -/
inductive Topic where
  | grammar
  | generator
  | program
deriving DecidableEq, Repr

def Topic.name : Topic → String
  | .grammar => "cfg_sampler::grammar"
  | .generator => "cfg_sampler::generator"
  | .program => "cfg_sampler"

structure Record where
  level : Level
  topic : Topic
  message : String
deriving DecidableEq, Repr

def Record.shown (record : Record) : String :=
  record.level.name ++ " " ++ record.topic.name ++ " " ++ record.message

/-- A watcher that adds what a report gives rise to, the latest first. -/
def collect {α : Type} (notes : Report → List α) : Watcher (List α) :=
  fun report earlier => (notes report).reverse ++ earlier

end Journal

open Journal

def Grammar.builtRecord (grammar : Grammar) : Record :=
  ⟨.debug, .grammar, "grammar with " ++ toString grammar.rules.length ++ " rules, " ++
    toString grammar.nonTerminalList.length ++ " non-terminals, " ++
    toString grammar.terminalList.length ++ " terminals, axiom " ++ grammar.start⟩

/-- The records of an attempt to build a grammar. -/
def Grammar.buildRecords : Except Failure Grammar → List Record
  | .ok grammar => [grammar.builtRecord]
  | .error _ => []

def Report.ruleRecord (report : Report) : Record :=
  ⟨.trace, .generator, "expanding with " ++ report.rule.shown⟩

/-- The sentence so far, as it is told while a tree grows. -/
def Report.progress (report : Report) : String := "processing ... " ++ report.text

def Report.progressRecord (report : Report) : Record := ⟨.debug, .generator, report.progress⟩

/-- What a journal kept at a level holds about one expansion; the sentence so far only if someone
follows the progress. -/
def Report.records (kept : Level) (followed : Bool) (report : Report) : List Record :=
  (if kept.admits .trace then [report.ruleRecord] else []) ++
    (if followed && kept.admits .debug then [report.progressRecord] else [])

/-- The record of a run that finished. -/
def Generator.Run.endRecords {σ ω : Type} (run : Generator.Run σ ω) : List Record :=
  match run.ending with
  | .finished tree =>
    [⟨.debug, .generator, "derivation finished after " ++ toString run.steps ++ " steps, " ++
      toString tree.nodeCount ++ " nodes"⟩]
  | _ => []

end SentenceSampler
