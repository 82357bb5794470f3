import SentenceSampler.Proofs.Derivation

/-!
Productive symbols. Main statement: a non-terminal is productive exactly if a complete derivation starts
from it.
-/
namespace SentenceSampler.Grammar

/-- The least set of non-terminals that holds one as soon as some rule of it has only terminals and
members of the set on its right-hand side. -/
inductive Productive (grammar : Grammar) : Symbol → Prop where
  | rule {rule : Rule} (member : rule ∈ grammar.rules)
      (parts : ∀ part ∈ rule.rhs, grammar.isTerminal part = false → Productive grammar part) :
      Productive grammar rule.lhs

variable {grammar : Grammar} {symbol : Symbol} {tree : Tree}

/-- Derivations from all symbols of a right-hand side are the children of one from the left. -/
theorem exists_derives_of_rule {rule : Rule} (member : rule ∈ grammar.rules)
    (parts : ∀ part ∈ rule.rhs, ∃ tree : Tree, tree.label = part ∧ grammar.Derives tree) :
    ∃ tree : Tree, tree.label = rule.lhs ∧ grammar.Derives tree := by
  have : Nonempty Tree := ⟨.leaf rule.lhs⟩
  choose! child label derives using parts
  have labels : (rule.rhs.map child).map Tree.label = rule.rhs :=
    calc (rule.rhs.map child).map Tree.label
        = rule.rhs.map id := by rw [List.map_map]; exact List.map_congr_left label
      _ = rule.rhs := List.map_id rule.rhs
  refine ⟨.node rule.lhs (rule.rhs.map child), rfl, .node (by rwa [labels]) ?_⟩
  intro tree among
  obtain ⟨part, inside, rfl⟩ := List.mem_map.mp among
  exact derives part inside

theorem Productive.exists_derives (productive : grammar.Productive symbol) :
    ∃ tree : Tree, tree.label = symbol ∧ grammar.Derives tree := by
  induction productive with
  | rule member _ ih =>
    refine exists_derives_of_rule member fun part inside => ?_
    cases terminal : grammar.isTerminal part with
    | true => exact ⟨.leaf part, rfl, .leaf terminal⟩
    | false => exact ih part inside terminal

theorem productive_of_derives (derives : grammar.Derives tree)
    (notTerminal : grammar.isTerminal tree.label = false) : grammar.Productive tree.label := by
  induction derives with
  | leaf terminal => simp [Tree.label, terminal] at notTerminal
  | @node label children member _ ih =>
    refine .rule member fun part inside notTerminal => ?_
    obtain ⟨child, among, rfl⟩ := List.mem_map.mp inside
    exact ih child among notTerminal

theorem productive_iff (nonTerminal : grammar.isNonTerminal symbol = true) :
    grammar.Productive symbol ↔ ∃ tree : Tree, tree.label = symbol ∧ grammar.Derives tree := by
  refine ⟨Productive.exists_derives, ?_⟩
  rintro ⟨tree, rfl, derives⟩
  exact productive_of_derives derives (not_isTerminal_of_isNonTerminal nonTerminal)

/-- A name that is only ever rewritten into itself. -/
def loop : Grammar :=
  (ofRules [⟨"A", ["A"]⟩] "A").toOption.get (toOption_ofRules_isSome (by decide) (by decide))

theorem loop_not_productive (symbol : Symbol) : ¬ loop.Productive symbol := by
  intro productive
  induction productive with
  | rule member _ ih =>
    obtain rfl : _ = (⟨"A", ["A"]⟩ : Rule) := List.mem_singleton.mp member
    exact ih "A" List.mem_cons_self (by decide)

end SentenceSampler.Grammar
