import SentenceSampler.Tree.Traversal

/-!
The leaves of a tree by structural recursion, each with its address. Main statements: the yield of a
tree lists their labels, and the leaf addresses are their addresses.
-/
namespace SentenceSampler.Tree

mutual

/-- The labels of the leaves of a tree, from left to right. -/
def tokens : Tree → List String
  | .node label [] => [label]
  | .node _ (child :: siblings) => forestTokens (child :: siblings)

def forestTokens : List Tree → List String
  | [] => []
  | tree :: trees => tree.tokens ++ forestTokens trees

end

mutual

/-- The leaves of a tree that stands at an address, each with its own address and its label. -/
def leavesAt (address : Address) : Tree → List (Address × String)
  | .node label [] => [(address, label)]
  | .node _ (child :: siblings) => forestLeavesAt address 0 (child :: siblings)

/-- The leaves of consecutive children of the node at an address, the first of which has the given
index. -/
def forestLeavesAt (address : Address) (index : Nat) : List Tree → List (Address × String)
  | [] => []
  | tree :: trees =>
    leavesAt (address ++ [index]) tree ++ forestLeavesAt address (index + 1) trees

end

def leaves (tree : Tree) : List (Address × String) := leavesAt [] tree

theorem tokens_node_of_ne_nil {label : String} {children : List Tree} (inner : children ≠ []) :
    (Tree.node label children).tokens = forestTokens children := by
  cases children with
  | nil => exact absurd rfl inner
  | cons child siblings => rw [tokens]

theorem mem_forestTokens {token : String} {trees : List Tree} :
    token ∈ forestTokens trees ↔ ∃ tree ∈ trees, token ∈ tree.tokens := by
  induction trees with
  | nil => simp [forestTokens]
  | cons tree trees ih => simp [forestTokens, ih]

theorem leavesAt_node_of_ne_nil {address : Address} {label : String} {children : List Tree}
    (inner : children ≠ []) :
    leavesAt address (.node label children) = forestLeavesAt address 0 children := by
  cases children with
  | nil => exact absurd rfl inner
  | cons child siblings => rw [leavesAt]

theorem forestTokens_append (left right : List Tree) :
    forestTokens (left ++ right) = forestTokens left ++ forestTokens right := by
  induction left with
  | nil => simp [forestTokens]
  | cons tree trees ih => simp [forestTokens, ih]

theorem forestLeavesAt_append (address : Address) (index : Nat) (left right : List Tree) :
    forestLeavesAt address index (left ++ right) =
      forestLeavesAt address index left ++
        forestLeavesAt address (index + left.length) right := by
  induction left generalizing index with
  | nil => simp [forestLeavesAt]
  | cons tree trees ih =>
    have shifted : index + 1 + trees.length = index + (trees.length + 1) := by omega
    simp [forestLeavesAt, ih, shifted]

mutual

theorem leavesAt_map_snd (address : Address) :
    (tree : Tree) → (leavesAt address tree).map Prod.snd = tree.tokens
  | .node label [] => by simp [leavesAt, tokens]
  | .node label (child :: siblings) => by
    rw [leavesAt, tokens]
    exact forestLeavesAt_map_snd address 0 (child :: siblings)

theorem forestLeavesAt_map_snd (address : Address) (index : Nat) :
    (trees : List Tree) → (forestLeavesAt address index trees).map Prod.snd = forestTokens trees
  | [] => by simp [forestLeavesAt, forestTokens]
  | tree :: trees => by
    rw [forestLeavesAt, forestTokens, List.map_append, leavesAt_map_snd,
      forestLeavesAt_map_snd address (index + 1) trees]

end

theorem forestTokens_map_leaf (symbols : List String) :
    forestTokens (symbols.map leaf) = symbols := by
  induction symbols with
  | nil => rfl
  | cons symbol symbols ih => simp [forestTokens, leaf, tokens, ih]

theorem forestLeavesAt_map_leaf_fst (address : Address) (index : Nat) (symbols : List String) :
    (forestLeavesAt address index (symbols.map leaf)).map Prod.fst =
      (List.range' index symbols.length).map (childAddress address) := by
  induction symbols generalizing index with
  | nil => rfl
  | cons symbol symbols ih =>
    simp [forestLeavesAt, leaf, leavesAt, ih, List.range'_succ, childAddress_eq]

private theorem collectYield_eq (pending : List Tree) (found : List String) :
    collectYield pending found = found.reverse ++ forestTokens pending := by
  fun_induction collectYield pending found with
  | case1 found => simp [forestTokens]
  | case2 label pending found ih => simp [ih, forestTokens, tokens]
  | case3 label child siblings pending found ih =>
    rw [ih, forestTokens_append]
    simp [forestTokens, tokens]

theorem yield_eq_tokens (tree : Tree) : tree.yield = tree.tokens := by
  simp [yield, collectYield_eq, forestTokens]

/-- The leaves of trees that stand at unrelated addresses. -/
private def placedLeaves (pending : List (Tree × Address)) : List (Address × String) :=
  pending.flatMap fun (tree, address) => leavesAt address tree

private theorem placedLeaves_zipIdx (address : Address) (index : Nat) (trees : List Tree) :
    placedLeaves ((trees.zipIdx index).map fun (tree, index) => (tree, childAddress address index)) =
      forestLeavesAt address index trees := by
  induction trees generalizing index with
  | nil => simp [placedLeaves, forestLeavesAt]
  | cons tree trees ih =>
    simp only [placedLeaves, List.zipIdx_cons, List.map_cons, List.flatMap_cons] at ih ⊢
    rw [ih, forestLeavesAt, childAddress_eq]

private theorem collectAddresses_eq (pending : List (Tree × Address)) (found : List Address) :
    collectAddresses pending found = found.reverse ++ (placedLeaves pending).map Prod.fst := by
  fun_induction collectAddresses pending found with
  | case1 found => simp [placedLeaves]
  | case2 label address pending found ih => simp [ih, placedLeaves, leavesAt]
  | case3 label child siblings address pending found ih =>
    have unfolded : placedLeaves (placeChildren address (child :: siblings)) =
        leavesAt address (.node label (child :: siblings)) := by
      rw [placeChildren, placedLeaves_zipIdx, leavesAt]
    simp only [placedLeaves, List.flatMap_append, List.flatMap_cons] at ih unfolded ⊢
    rw [ih, unfolded]

theorem leafAddresses_eq_leaves (tree : Tree) : tree.leafAddresses = tree.leaves.map Prod.fst := by
  simp [leafAddresses, collectAddresses_eq, placedLeaves, leaves]

theorem yield_eq_leaves (tree : Tree) : tree.yield = tree.leaves.map Prod.snd := by
  rw [yield_eq_tokens, leaves, leavesAt_map_snd]

theorem yield_node_map_leaf {label : String} {symbols : List String} (inner : symbols ≠ []) :
    (Tree.node label (symbols.map leaf)).yield = symbols := by
  rw [yield_eq_tokens, tokens_node_of_ne_nil (by simpa using inner), forestTokens_map_leaf]

theorem yield_leaf (label : String) : (leaf label).yield = [label] := by
  simp [yield_eq_tokens, leaf, tokens]

end SentenceSampler.Tree
