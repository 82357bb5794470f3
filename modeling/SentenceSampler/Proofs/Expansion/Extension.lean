import SentenceSampler.Proofs.Derivation
import SentenceSampler.Proofs.Expansion.Course
import SentenceSampler.Proofs.Tree.Graft

/-!
What a run makes of the leaves that it starts with. Main statement: at every moment a derivation stands in
place of each of them, and everything else in the tree is as it was.
-/
namespace SentenceSampler

variable {grammar : Grammar}

namespace Grammar

/-- A tree that has derivations in place of the leaves of another one. -/
def Extends (grammar : Grammar) (tree grown : Tree) : Prop :=
  ∃ parts, tree.Grafted parts grown ∧ ∀ part ∈ parts, grammar.Begins part

theorem Extends.refl (grammar : Grammar) (tree : Tree) : grammar.Extends tree tree := by
  refine ⟨tree.tokens.map .leaf, .refl tree, ?_⟩
  intro part member
  obtain ⟨symbol, _, rfl⟩ := List.mem_map.mp member
  exact .leaf trivial

/-- An expansion lets the derivation go on that stands in place of one leaf. -/
theorem Extends.expandAt {tree grown : Tree} {address : Address} {rule : Rule}
    (extended : grammar.Extends tree grown) (found : grown.nodeAt? address = some (.leaf rule.lhs))
    (member : rule ∈ grammar.rules) :
    grammar.Extends tree (grown.expandAt (rule.rhs.map .leaf) address) := by
  obtain ⟨parts, grafted, begins⟩ := extended
  obtain ⟨before, part, after, below, rfl, inside, expanded⟩ :=
    grafted.expandAt (rule.rhs.map .leaf) found
  refine ⟨_, expanded, ?_⟩
  intro other among
  rcases List.mem_append.mp among with left | right
  · exact begins other (List.mem_append_left _ left)
  · rcases List.mem_cons.mp right with rfl | right
    · exact (begins part (by simp)).expandAt inside member
    · exact begins other (by simp [right])

end Grammar

namespace Expansion

variable {σ ω : Type} {setting : Setting σ ω} {start state next : State σ ω} {tree : Tree}
variable {done later : List (Address × String)}

theorem Progress.extension (progress : Progress setting state next)
    (extended : setting.grammar.Extends tree state.tree) :
    setting.grammar.Extends tree next.tree := by
  cases progress with
  | passed pending => exact extended
  | expanded pending filled terminal allowed asked chosen =>
    exact extended.expandAt (Context.nodeAt?_of_filled filled) (Grammar.mem_of_rulesOf chosen).1

/-- Wherever a run comes by, derivations stand in place of the leaves that it started with. -/
theorem Frontier.extension (frontier : Frontier setting.grammar start done later)
    (reaches : Reaches setting start state) :
    setting.grammar.Extends start.tree state.tree :=
  frontier.invariant Progress.extension (.refl setting.grammar start.tree) reaches

end Expansion

end SentenceSampler
