import SentenceSampler.Expansion

/-!
Generators: runs under a step limit.
-/
namespace SentenceSampler

/-- A generator gives up before it exceeds its limit; without a limit it goes on until it is
done. -/
structure Generator where
  maxSteps : Option Nat := some 100000
deriving DecidableEq, Repr

namespace Generator

/-- How a run ends. Only one without a limit is ever interrupted, when it has made as many
expansions as anyone had the patience to wait for. -/
inductive Ending where
  | finished (tree : Tree)
  | failed (cause : Failure)
  | interrupted

/-- A run that is over: how it ended, the expansions it made, and what it left. -/
structure Run (σ ω : Type) where
  ending : Ending
  steps : Nat
  chooser : σ
  seen : ω

/-- How an expansion under a limit ended. -/
def Ending.ofStop (maxSteps : Option Nat) (tree : Tree) : Option Expansion.Stop → Ending
  | none => .finished tree
  | some (.failed cause) => .failed cause
  | some (.outOfAllowance symbol) => match maxSteps with
    | some limit => .failed (.stepLimitExceeded limit symbol)
    | none => .interrupted

variable {σ ω : Type}

/-- Expands every leaf of a tree that is no terminal of the grammar. -/
def complete (generator : Generator) (setting : Expansion.Setting σ ω) (patience : Nat)
    (tree : Tree) (chooser : σ) (seen : ω) : Run σ ω :=
  let allowance := generator.maxSteps.getD patience
  let outcome := Expansion.run setting (.initial tree allowance chooser seen)
  ⟨.ofStop generator.maxSteps outcome.last.tree outcome.stop,
    outcome.last.steps, outcome.last.chooser, outcome.last.seen⟩

/-- Grows a tree from the start symbol. -/
def generate (generator : Generator) (setting : Expansion.Setting σ ω) (patience : Nat)
    (chooser : σ) (seen : ω) : Run σ ω :=
  generator.complete setting patience (.leaf setting.grammar.start) chooser seen

end Generator

end SentenceSampler
