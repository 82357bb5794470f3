import SentenceSampler.Proofs.Generator.Soundness
import SentenceSampler.Proofs.Tree.Splice

/-!
Runs that grow a tree from the start symbol. Main statement: such a run ends with a complete derivation,
or where its allowance has become the size of a derivation, or where the chooser declines; it never
meets a symbol that is unknown.
-/
namespace SentenceSampler

theorem Grammar.knows_of_begins {grammar : Grammar} {tree : Tree} (begins : grammar.Begins tree)
    (root : grammar.Knows tree.label) : ∀ token ∈ tree.tokens, grammar.Knows token := by
  induction begins with
  | leaf =>
    intro token found
    rw [Tree.tokens, List.mem_singleton] at found
    exact found ▸ root
  | @node label children member _ ih =>
    intro token found
    rw [Tree.tokens_node_of_ne_nil (Grammar.children_ne_nil member), Tree.mem_forestTokens] at found
    obtain ⟨child, among, found⟩ := found
    have part : child.label ∈ children.map Tree.label := List.mem_map_of_mem among
    exact ih child among (Grammar.knows_of_mem_rhs member part) token found

namespace Expansion

variable {σ ω : Type} {setting : Setting σ ω} {grammar : Grammar} {state next : State σ ω}
variable {allowance : Nat} {done later : List (Address × String)}

/-- The tree of a run that started with the start symbol is a derivation from it, whose size is the part
of the allowance that is used up. -/
structure Grown (grammar : Grammar) (allowance : Nat) (state : State σ ω) : Prop where
  root : state.tree.label = grammar.start
  begins : grammar.Begins state.tree
  size : state.tree.innerCount = state.steps
  total : state.steps + state.allowance = allowance

theorem Grown.initial (grammar : Grammar) (allowance : Nat) (chooser : σ) (seen : ω) :
    Grown grammar allowance (State.initial (.leaf grammar.start) allowance chooser seen) where
  root := rfl
  begins := .leaf trivial
  size := rfl
  total := Nat.zero_add allowance

theorem Grown.progress (progress : Progress setting state next)
    (grown : Grown setting.grammar allowance state) : Grown setting.grammar allowance next := by
  obtain ⟨root, begins, size, total⟩ := grown
  have same := progress.total.trans total
  cases progress with
  | passed pending => exact ⟨root, begins, size, same⟩
  | @expanded context rule index chooser pending filled terminal allowed asked chosen =>
    have member := (Grammar.mem_of_rulesOf chosen).1
    refine ⟨(label_apply state _ _ _ _ _).trans root, begins_apply filled member begins _ _, ?_, same⟩
    rw [apply_tree filled, context.innerCount_splice _ (setting.grammar.rhs_ne_nil rule member), ← filled,
      size]
    rfl

/-- How a run that grows a tree from the start symbol can end. -/
inductive Generated (setting : Setting σ ω) (allowance : Nat) : Outcome σ ω → Prop where
  | finished {last : State σ ω} (root : last.tree.label = setting.grammar.start)
      (derives : setting.grammar.Derives last.tree) : Generated setting allowance ⟨none, last⟩
  | outOfAllowance {symbol : Symbol} {last : State σ ω}
      (root : last.tree.label = setting.grammar.start) (begins : setting.grammar.Begins last.tree)
      (size : last.tree.innerCount = allowance) :
      Generated setting allowance ⟨some (.outOfAllowance symbol), last⟩
  | declined {candidates : Nat} {chooser : σ} {answer : Option Nat} {symbol : Symbol}
      {last : State σ ω} (asked : setting.choose candidates chooser = (answer, last.chooser))
      (unusable : ∀ index, answer = some index → candidates ≤ index) :
      Generated setting allowance ⟨some (.failed (.emptyRuleSet symbol)), last⟩

theorem run_generated (setting : Setting σ ω) (allowance : Nat) (chooser : σ) (seen : ω) :
    Generated setting allowance
      (run setting (.initial (.leaf setting.grammar.start) allowance chooser seen)) := by
  obtain ⟨final, done, later, reaches, frontier, halt⟩ :=
    (Frontier.initial setting.grammar (.leaf setting.grammar.start) allowance chooser
      seen).exists_halt
  obtain ⟨root, begins, size, total⟩ := (Frontier.initial setting.grammar _ _ _ _).invariant
    Grown.progress (Grown.initial setting.grammar allowance chooser seen) reaches
  generalize run setting _ = outcome at halt ⊢
  cases halt with
  | finished =>
    have terminal := frontier.tokens_terminal
    exact .finished root (begins.refine (by simpa [Tree.yield_eq_tokens] using terminal))
  | @unknown address symbol later notTerminal notNonTerminal =>
    have start : setting.grammar.Knows final.tree.label := root ▸ setting.grammar.knows_start
    have leaf : symbol ∈ final.tree.tokens := by
      rw [← Tree.yield_eq_tokens, frontier.yield]
      simp
    rcases Grammar.knows_of_begins begins start symbol leaf with terminal | nonTerminal
    · simp [notTerminal] at terminal
    · simp [notNonTerminal] at nonTerminal
  | outOfAllowance nonTerminal spent => exact .outOfAllowance root begins (by omega)
  | declined nonTerminal allowed asked unusable => exact .declined asked unusable

end Expansion

end SentenceSampler
