import Mathlib.Algebra.Order.BigOperators.Group.List
import Mathlib.Algebra.Order.Ring.Nat
import SentenceSampler.Proofs.Derivation.Choices
import SentenceSampler.Proofs.Grammar.Reachable

/-!
The size of derivations. Main statements: the nodes with children are those around a hole and those of
what fills it; and the derivations from the start symbol are bounded where no symbol within reach leads
back to itself.
-/
namespace SentenceSampler

namespace Tree

theorem forestInnerCount_eq_sum (trees : List Tree) :
    forestInnerCount trees = (trees.map innerCount).sum := by
  induction trees with
  | nil => rfl
  | cons tree trees ih => rw [forestInnerCount, ih, List.map_cons, List.sum_cons]

theorem innerCount_node_map_leaf {labels : List String} (label : String) (some : labels ≠ []) :
    innerCount (.node label (labels.map .leaf)) = 1 := by
  rw [innerCount_node_of_ne_nil (by simpa using some), forestInnerCount_eq_sum]
  simp [Function.comp_def, leaf, innerCount]

end Tree

/-- The number of nodes with children around the hole. -/
def Context.innerCount : Context → Nat
  | .root => 0
  | .child outer _ before after =>
    outer.innerCount + (1 + Tree.forestInnerCount before + Tree.forestInnerCount after)

theorem Context.innerCount_plug (context : Context) (tree : Tree) :
    (context.plug tree).innerCount = context.innerCount + tree.innerCount := by
  induction context generalizing tree with
  | root => simp [plug, innerCount]
  | child outer label before after ih =>
    have inside : Tree.innerCount (.node label (before ++ tree :: after)) =
        1 + Tree.forestInnerCount before + Tree.forestInnerCount after + tree.innerCount := by
      rw [Tree.innerCount_node_of_ne_nil (by simp)]
      simp only [Tree.forestInnerCount_eq_sum, List.map_append, List.map_cons, List.sum_append,
        List.sum_cons]
      omega
    rw [plug, ih, inside, innerCount]
    omega

namespace Grammar

/-- No derivation from a symbol has more nodes with children. -/
def Bounds (grammar : Grammar) (bound : Nat) (symbol : Symbol) : Prop :=
  ∀ tree, grammar.Begins tree → tree.label = symbol → tree.innerCount ≤ bound

variable {grammar : Grammar}

theorem forestInnerCount_le {weight : Symbol → Nat} {children : List Tree}
    (begins : ∀ child ∈ children, grammar.Begins child)
    (bounds : ∀ child ∈ children, grammar.Bounds (weight child.label) child.label) :
    Tree.forestInnerCount children ≤ ((children.map Tree.label).map weight).sum := by
  rw [Tree.forestInnerCount_eq_sum, List.map_map]
  exact List.sum_le_sum fun child member => bounds child member child (begins child member) rfl

theorem exists_bounds {symbol : Symbol}
    (parts : ∀ part, grammar.Leads symbol part → ∃ bound, grammar.Bounds bound part) :
    ∃ bound, grammar.Bounds bound symbol := by
  choose! weight bounds using parts
  -- A node has the children of one of the rules, so the sum over all rules is enough.
  let cost (rule : Rule) : Nat := 1 + (rule.rhs.map weight).sum
  refine ⟨(grammar.rules.map cost).sum, ?_⟩
  intro tree begins root
  cases begins with
  | leaf => exact Nat.zero_le _
  | @node label children member grown =>
    have leads (child : Tree) (among : child ∈ children) : grammar.Leads symbol child.label :=
      ⟨_, member, root, List.mem_map_of_mem among⟩
    have below := forestInnerCount_le grown fun child among => bounds _ (leads child among)
    calc Tree.innerCount (.node label children)
        = 1 + Tree.forestInnerCount children :=
          Tree.innerCount_node_of_ne_nil (children_ne_nil member)
      _ ≤ cost ⟨label, children.map Tree.label⟩ := Nat.add_le_add_left below 1
      _ ≤ (grammar.rules.map cost).sum := List.le_sum_of_mem (List.mem_map_of_mem member)

/-- Where no symbol within reach leads back to itself, the derivations from the start symbol are
bounded. -/
theorem exists_bounds_start (acyclic : ¬ grammar.Recursive) :
    ∃ bound, grammar.Bounds bound grammar.start :=
  start_induction acyclic fun _ parts => exists_bounds parts

end Grammar

end SentenceSampler
