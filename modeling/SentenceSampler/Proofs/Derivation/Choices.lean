import SentenceSampler.Proofs.Derivation

/-!
The choices that a derivation tree stands for. Main statements: there is one for every node with
children, and each is within the number of rules it was made among.
-/
namespace SentenceSampler

namespace Tree

mutual

/-- The number of nodes that have children. -/
def innerCount : Tree → Nat
  | .node _ [] => 0
  | .node _ (child :: siblings) => 1 + forestInnerCount (child :: siblings)

def forestInnerCount : List Tree → Nat
  | [] => 0
  | tree :: trees => tree.innerCount + forestInnerCount trees

end

theorem innerCount_node_of_ne_nil {label : String} {children : List Tree} (inner : children ≠ []) :
    innerCount (.node label children) = 1 + forestInnerCount children := by
  cases children with
  | nil => exact absurd rfl inner
  | cons child siblings => rw [innerCount]

end Tree

namespace Grammar

mutual

/-- The choices a tree stands for, in preorder: at every node with children the number of rules for
its label, and the place among them of the rule that gave it its children. -/
def calls (grammar : Grammar) : Tree → List (Nat × Nat)
  | .node _ [] => []
  | .node label (child :: siblings) =>
    let rules := rulesOf grammar.rules label
    (rules.length, rules.idxOf ⟨label, (child :: siblings).map Tree.label⟩) ::
      grammar.forestCalls (child :: siblings)

def forestCalls (grammar : Grammar) : List Tree → List (Nat × Nat)
  | [] => []
  | tree :: trees => grammar.calls tree ++ grammar.forestCalls trees

end

variable {grammar : Grammar} {tree : Tree}

mutual

theorem calls_length (grammar : Grammar) :
    (tree : Tree) → (grammar.calls tree).length = tree.innerCount
  | .node _ [] => by simp [calls, Tree.innerCount]
  | .node _ (child :: siblings) => by
    rw [calls, Tree.innerCount, List.length_cons, forestCalls_length grammar (child :: siblings),
      Nat.add_comm]

theorem forestCalls_length (grammar : Grammar) :
    (trees : List Tree) → (grammar.forestCalls trees).length = Tree.forestInnerCount trees
  | [] => rfl
  | tree :: trees => by
    rw [forestCalls, Tree.forestInnerCount, List.length_append, calls_length grammar tree,
      forestCalls_length grammar trees]

end

theorem mem_forestCalls {call : Nat × Nat} {trees : List Tree} :
    call ∈ grammar.forestCalls trees ↔ ∃ tree ∈ trees, call ∈ grammar.calls tree := by
  induction trees with
  | nil => simp [forestCalls]
  | cons tree trees ih => simp [forestCalls, ih]

theorem calls_node_of_ne_nil {label : Symbol} {children : List Tree} (inner : children ≠ []) :
    grammar.calls (.node label children) =
      ((rulesOf grammar.rules label).length,
        (rulesOf grammar.rules label).idxOf ⟨label, children.map Tree.label⟩) ::
      grammar.forestCalls children := by
  cases children with
  | nil => exact absurd rfl inner
  | cons child siblings => rw [calls]

theorem calls_lt (derives : grammar.Derives tree) :
    ∀ call ∈ grammar.calls tree, call.2 < call.1 := by
  induction derives with
  | leaf => simp [calls]
  | node rule _ ih =>
    intro call member
    rw [calls_node_of_ne_nil (children_ne_nil rule)] at member
    rcases List.mem_cons.mp member with rfl | member
    · exact List.idxOf_lt_length_of_mem (mem_rulesOf rule)
    · obtain ⟨child, present, found⟩ := mem_forestCalls.mp member
      exact ih child present call found

end Grammar

end SentenceSampler
