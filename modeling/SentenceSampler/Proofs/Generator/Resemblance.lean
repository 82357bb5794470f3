import SentenceSampler.Generator
import SentenceSampler.Proofs.Expansion.Course
import SentenceSampler.Proofs.Grammar.Resemblance

/-!
What a run from the start symbol depends on. Main statement: two grammars that rewrite everything within
reach by the same rules in the same order lead every chooser through the same run.
-/
namespace SentenceSampler

open Relation (EqvGen)

namespace Expansion

variable {σ ω : Type} {setting : Setting σ ω} {state next : State σ ω} {other : Grammar}
variable {done later : List (Address × String)}

/-- The leaves of the tree carry symbols within reach. -/
def WithinReach (grammar : Grammar) (state : State σ ω) : Prop :=
  ∀ token ∈ state.tree.yield, grammar.Reachable token

theorem Progress.withinReach (progress : Progress setting state next)
    (within : WithinReach setting.grammar state) : WithinReach setting.grammar next := by
  cases progress with
  | passed pending => exact within
  | @expanded context rule index chooser pending filled terminal allowed asked chosen =>
    have member := (Grammar.mem_of_rulesOf chosen).1
    rw [WithinReach, filled, Context.yield_plug, Tree.yield_leaf] at within
    rw [WithinReach, apply_tree filled, Context.yield_plug,
      Tree.yield_node_map_leaf (setting.grammar.rhs_ne_nil rule member)]
    intro token found
    rcases List.mem_append.mp found with front | right
    · rcases List.mem_append.mp front with left | fresh
      · exact within token (by simp [left])
      · have expanded : setting.grammar.Reachable rule.lhs := within rule.lhs (by simp)
        exact expanded.tail ⟨rule, member, rfl, fresh⟩
    · exact within token (by simp [right])

/-- At a symbol within reach, the same move is possible under the other grammar. -/
theorem Turn.resembles {address : Address} {pending : List Address} {symbol : Symbol} {move : Move σ ω}
    (turn : Turn setting state address pending symbol move)
    (resembles : other.Resembles setting.grammar) (reachable : setting.grammar.Reachable symbol) :
    Turn { setting with grammar := other } state address pending symbol move := by
  have sameTerminal := resembles.isTerminal reachable
  have sameNonTerminal := resembles.isNonTerminal reachable
  have sameRules := resembles.rulesOf symbol reachable
  cases turn with
  | passed terminal => exact .passed (sameTerminal.trans terminal)
  | unknown notTerminal notNonTerminal =>
    exact .unknown (sameTerminal.trans notTerminal) (sameNonTerminal.trans notNonTerminal)
  | outOfAllowance nonTerminal spent => exact .outOfAllowance (sameNonTerminal.trans nonTerminal) spent
  | declined nonTerminal allowed asked unusable =>
    rw [← sameRules] at asked unusable
    exact .declined (sameNonTerminal.trans nonTerminal) allowed asked unusable
  | expanded nonTerminal allowed asked chosen =>
    rw [← sameRules] at asked chosen
    exact .expanded (sameNonTerminal.trans nonTerminal) allowed asked chosen

theorem Frontier.advance_resembles (frontier : Frontier setting.grammar state done later)
    (within : WithinReach setting.grammar state) (resembles : other.Resembles setting.grammar) :
    advance { setting with grammar := other } state = advance setting state := by
  rcases later with _ | ⟨⟨address, symbol⟩, later⟩
  · rw [advance_nil frontier.pending, advance_nil frontier.pending]
  · have leaf : symbol ∈ state.tree.yield := by
      rw [frontier.yield]
      simp
    exact frontier.advance_eq ((frontier.turn setting).resembles resembles (within symbol leaf))

theorem Frontier.run_resembles (frontier : Frontier setting.grammar state done later)
    (within : WithinReach setting.grammar state) (resembles : other.Resembles setting.grammar) :
    Expansion.run { setting with grammar := other } state = Expansion.run setting state := by
  fun_induction Expansion.run setting state generalizing done later with
  | case1 state last move =>
    exact run_of_finished ((frontier.advance_resembles within resembles).trans move)
  | case2 state cause last move =>
    exact run_of_stopped ((frontier.advance_resembles within resembles).trans move)
  | case3 state next move ih =>
    obtain ⟨progress, _, _, following⟩ := frontier.progress move
    rw [run_of_moved ((frontier.advance_resembles within resembles).trans move)]
    exact ih following (progress.withinReach within)

end Expansion

open Expansion

namespace Generator

/-- Whoever chooses and whoever watches, runs from the start symbols of the two grammars end in the same
way, after the same steps, and leave the chooser and the watcher alike. -/
def SamplesAlike (other grammar : Grammar) : Prop :=
  ∀ (σ ω : Type) (generator : Generator) (choose : Chooser σ) (watch : Watcher ω) (patience : Nat)
    (chooser : σ) (seen : ω),
    generator.generate ⟨other, choose, watch⟩ patience chooser seen =
      generator.generate ⟨grammar, choose, watch⟩ patience chooser seen

theorem samplesAlike_of_resembles {other grammar : Grammar} (resembles : other.Resembles grammar) :
    SamplesAlike other grammar := by
  intro σ ω generator choose watch patience chooser seen
  let setting : Setting σ ω := ⟨grammar, choose, watch⟩
  let start : State σ ω :=
    .initial (.leaf grammar.start) (generator.maxSteps.getD patience) chooser seen
  have frontier : Frontier setting.grammar start [] (Tree.leaf grammar.start).leaves :=
    Frontier.initial _ _ _ _ _
  have within : WithinReach setting.grammar start := by
    intro token found
    obtain rfl : token = grammar.start := by simpa [start, State.initial, Tree.yield_leaf] using found
    exact .refl
  have same : Expansion.run ⟨other, choose, watch⟩ start = Expansion.run setting start :=
    frontier.run_resembles within resembles
  rw [generate, generate, resembles.start, complete, complete, same]

/-- Only the rules for the symbols within reach of the start symbol matter, and of their order only that
among the rules for one symbol: neither rules of different symbols that change places nor rules of other
symbols that come or go change a run. -/
theorem samplesAlike_of_start_eq {other grammar : Grammar} (start : other.start = grammar.start) :
    ((∀ symbol, grammar.Reachable symbol →
        Grammar.rulesOf other.rules symbol = Grammar.rulesOf grammar.rules symbol) →
      SamplesAlike other grammar) ∧
    (EqvGen (Grammar.Edit grammar.Reachable) grammar.rules other.rules → SamplesAlike other grammar) :=
  ⟨fun same => samplesAlike_of_resembles ⟨start, same⟩,
    fun edits => samplesAlike_of_resembles (Grammar.resembles_of_edits start edits)⟩

/-- The joined names with a symbol put between their rules that they have no use for. -/
def namesBeside : Grammar :=
  (Grammar.ofRules [⟨"N", ["x"]⟩, ⟨"M", ["N", "y"]⟩, ⟨"N", ["N", "&", "N"]⟩] "N").toOption.get
    (Grammar.toOption_ofRules_isSome (by decide) (by decide))

theorem samplesAlike_namesBeside :
    namesBeside.rules ≠ Grammar.names.rules ∧ SamplesAlike namesBeside Grammar.names := by
  have beyond : ¬ Grammar.names.Reachable "M" := by
    have absent : ∀ rule ∈ Grammar.names.rules, "M" ∉ rule.rhs := by decide
    intro reachable
    rcases Relation.ReflTransGen.cases_tail reachable with same | ⟨_, _, rule, member, _, part⟩
    · exact absurd same (by decide)
    · exact absent rule member part
  have edits : EqvGen (Grammar.Edit Grammar.names.Reachable) Grammar.names.rules namesBeside.rules :=
    .rel _ _ (.add [⟨"N", ["x"]⟩] [⟨"N", ["N", "&", "N"]⟩] ⟨"M", ["N", "y"]⟩ beyond)
  have start : namesBeside.start = Grammar.names.start := rfl
  exact ⟨by decide, (samplesAlike_of_start_eq start).2 edits⟩

end Generator

end SentenceSampler
