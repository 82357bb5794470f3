import SentenceSampler.Chooser
import SentenceSampler.Grammar
import SentenceSampler.Tree.Traversal

/-!
Expansion of a tree, one leaf at a time and the leftmost first. The leaves that are still to be
looked at are kept as a list of addresses, the leftmost on top.
-/
namespace SentenceSampler

/-- One expansion as it is reported: the number of expansions so far, the rule, and the tree right
after it. -/
structure Report where
  step : Nat
  rule : Rule
  tree : Tree

/-- The yield at that moment, with the symbols that are not expanded yet. -/
def Report.tokens (report : Report) : List String := report.tree.yield

def Report.text (report : Report) : String := Sentence.join report.tokens

/-- A watcher takes note of every expansion. -/
abbrev Watcher (ω : Type) := Report → ω → ω

namespace Expansion

/-- What a run depends on and does not change. -/
structure Setting (σ ω : Type) where
  grammar : Grammar
  choose : Chooser σ
  watch : Watcher ω

/-- A run between two leaves: `steps` expansions have been made, and `allowance` more may be. -/
structure State (σ ω : Type) where
  tree : Tree
  pending : List Address
  steps : Nat
  allowance : Nat
  chooser : σ
  seen : ω

/-- Why a run ends before its tree is complete. -/
inductive Stop where
  | outOfAllowance (symbol : Symbol)
  | failed (cause : Failure)
deriving DecidableEq, Repr

/-- What the next pending leaf leads to. -/
inductive Move (σ ω : Type) where
  | finished (last : State σ ω)
  | moved (next : State σ ω)
  | stopped (cause : Stop) (last : State σ ω)

/-- A run before its first move. -/
def State.initial {σ ω : Type} (tree : Tree) (allowance : Nat) (chooser : σ) (seen : ω) :
    State σ ω :=
  ⟨tree, tree.leafAddresses, 0, allowance, chooser, seen⟩

def childAddresses (address : Address) (count : Nat) : List Address :=
  (List.range count).map (childAddress address)

/-- The state after a rule is applied at an address; `pending` is what was to be looked at behind
that address. -/
def State.apply {σ ω : Type} (state : State σ ω) (watch : Watcher ω) (address : Address)
    (pending : List Address) (rule : Rule) (chooser : σ) : State σ ω :=
  let tree := state.tree.expandAt (rule.rhs.map Tree.leaf) address
  let steps := state.steps + 1
  { tree, steps, chooser
    pending := childAddresses address rule.rhs.length ++ pending
    allowance := state.allowance - 1
    seen := watch ⟨steps, rule, tree⟩ state.seen }

variable {σ ω : Type}

/-- Looks at the next pending leaf. A terminal stays as it is. A non-terminal is expanded by the
rule that is chosen, provided that the allowance is not used up; any other symbol is unknown. -/
def advance (setting : Setting σ ω) (state : State σ ω) : Move σ ω :=
  match state.pending with
  | [] => .finished state
  | address :: pending =>
    match state.tree.nodeAt? address with
    | none => .stopped (.failed (.invalidGrammar (.noNode address))) state
    | some node =>
      let symbol := node.label
      if setting.grammar.isTerminal symbol then .moved { state with pending }
      else if !setting.grammar.isNonTerminal symbol then
        .stopped (.failed (.unknownSymbol symbol)) state
      else if state.allowance = 0 then .stopped (.outOfAllowance symbol) state
      else match setting.grammar.rulesFor symbol with
        | .error cause => .stopped (.failed cause) state
        | .ok rules =>
          let (answer, chooser) := setting.choose rules.length state.chooser
          match answer.bind fun index => rules[index]? with
          | none => .stopped (.failed (.emptyRuleSet symbol)) { state with chooser }
          | some rule => .moved (state.apply setting.watch address pending rule chooser)

/-- A move uses up a part of the allowance, or keeps it and leaves fewer leaves to be looked at. -/
theorem advance_decreases {setting : Setting σ ω} {state next : State σ ω}
    (moved : advance setting state = .moved next) :
    next.allowance < state.allowance ∨
      next.allowance = state.allowance ∧ next.pending.length < state.pending.length := by
  unfold advance at moved
  split at moved
  · cases moved
  · rename_i same
    split at moved
    · cases moved
    · simp only at moved
      split at moved
      · cases moved
        exact .inr ⟨rfl, by simp [same]⟩
      · split at moved
        · cases moved
        · split at moved
          · cases moved
          · split at moved
            · cases moved
            · split at moved
              · cases moved
              · cases moved
                simp only [State.apply]
                exact .inl (by omega)

/-- How a run ended: the reason if it stopped, and its last state. -/
structure Outcome (σ ω : Type) where
  stop : Option Stop
  last : State σ ω

/-- Move after move until the run finishes or stops. -/
def run (setting : Setting σ ω) (state : State σ ω) : Outcome σ ω :=
  match _step : advance setting state with
  | .finished last => ⟨none, last⟩
  | .stopped cause last => ⟨some cause, last⟩
  | .moved next => run setting next
termination_by (state.allowance, state.pending.length)
decreasing_by
  rcases advance_decreases _step with fewer | ⟨same, fewer⟩
  · exact Prod.Lex.left _ _ fewer
  · rw [same]
    exact Prod.Lex.right _ fewer

end Expansion

end SentenceSampler
