import SentenceSampler.Proofs.Derivation.Size

/-!
What one leaf that gets children does to the measures of a tree. Main statements: the children take its place
in the yield, which grows by all of them but one, and among the leaf addresses; as many nodes are added as there
are children, one more node has children, and the tree is at least as deep as the children are.
-/
namespace SentenceSampler

namespace Tree

theorem forestCount_map_leaf (symbols : List String) :
    forestCount (symbols.map leaf) = symbols.length := by
  induction symbols with
  | nil => rfl
  | cons symbol symbols ih => simp [forestCount, leaf, nodeCount, ih, Nat.add_comm]

theorem forestDepth_append (left right : List Tree) :
    forestDepth (left ++ right) = max (forestDepth left) (forestDepth right) := by
  induction left with
  | nil => simp [forestDepth]
  | cons tree trees ih => simp [forestDepth, ih, Nat.max_assoc]

theorem depth_pos (tree : Tree) : 0 < tree.depth := by
  cases tree
  rw [depth]
  omega

theorem depth_leaf (label : String) : (leaf label).depth = 1 := by
  simp [leaf, depth, forestDepth]

theorem forestDepth_map_leaf {symbols : List String} (some : symbols ≠ []) :
    forestDepth (symbols.map leaf) = 1 := by
  induction symbols with
  | nil => exact absurd rfl some
  | cons symbol symbols ih =>
    rw [List.map_cons, forestDepth, depth_leaf]
    cases symbols with
    | nil => rfl
    | cons next later => rw [ih (by simp), Nat.max_self]

end Tree

namespace Context

theorem nodeCount_plug_add (context : Context) (first second : Tree) :
    (context.plug first).nodeCount + second.nodeCount =
      (context.plug second).nodeCount + first.nodeCount := by
  induction context generalizing first second with
  | root => exact Nat.add_comm _ _
  | child outer label before after ih =>
    have around := ih (.node label (before ++ first :: after)) (.node label (before ++ second :: after))
    simp only [Tree.nodeCount, Tree.forestCount_append, Tree.forestCount] at around
    simp only [plug]
    omega

variable (context : Context) (label : String) {symbols : List String}

/-- What fills a hole reaches down from the address of the hole, beside the paths around the hole. -/
theorem depth_plug (tree : Tree) :
    (context.plug tree).depth =
      max (context.plug (.leaf label)).depth (context.address.length + tree.depth) := by
  have positive := tree.depth_pos
  induction context generalizing tree with
  | root =>
    simp only [plug, address, Tree.depth_leaf, List.length_nil]
    omega
  | child outer own before after ih =>
    -- The node around the hole fills the hole of the outer context, with the tree and with a leaf in it.
    rw [plug, plug, ih _ (Tree.depth_pos _),
      ih (.node own (before ++ .leaf label :: after)) (Tree.depth_pos _)]
    simp only [Tree.depth, Tree.forestDepth_append, Tree.forestDepth, Tree.depth_leaf, address,
      List.length_append, List.length_singleton]
    omega

theorem depth_splice (some : symbols ≠ []) :
    (context.plug (.node label (symbols.map .leaf))).depth =
      max (context.plug (.leaf label)).depth (context.address.length + 2) := by
  rw [depth_plug context label, Tree.depth, Tree.forestDepth_map_leaf some]

theorem nodeCount_splice (symbols : List String) :
    (context.plug (.node label (symbols.map .leaf))).nodeCount =
      (context.plug (.leaf label)).nodeCount + symbols.length := by
  have exchanged := context.nodeCount_plug_add (.node label (symbols.map .leaf)) (.leaf label)
  simp only [Tree.nodeCount, Tree.leaf, Tree.forestCount_map_leaf, Tree.forestCount] at exchanged
  simp only [Tree.leaf]
  omega

theorem innerCount_splice (some : symbols ≠ []) :
    (context.plug (.node label (symbols.map .leaf))).innerCount =
      (context.plug (.leaf label)).innerCount + 1 := by
  rw [innerCount_plug, innerCount_plug, Tree.innerCount_node_map_leaf label some]
  rfl

theorem yield_splice (some : symbols ≠ []) :
    (context.plug (.node label (symbols.map .leaf))).yield =
      context.leavesBefore.map Prod.snd ++ symbols ++ context.leavesAfter.map Prod.snd := by
  rw [yield_plug, Tree.yield_node_map_leaf some]

theorem leafAddresses_splice (some : symbols ≠ []) :
    (context.plug (.node label (symbols.map .leaf))).leafAddresses =
      context.leavesBefore.map Prod.fst ++
        (List.range symbols.length).map (childAddress context.address) ++
        context.leavesAfter.map Prod.fst := by
  rw [Tree.leafAddresses_eq_leaves, leaves_plug, Tree.leavesAt_node_of_ne_nil (by simpa using some),
    List.map_append, List.map_append, Tree.forestLeavesAt_map_leaf_fst, List.range_eq_range']

theorem length_yield_splice (some : symbols ≠ []) :
    (context.plug (.node label (symbols.map .leaf))).yield.length =
      (context.plug (.leaf label)).yield.length + (symbols.length - 1) := by
  have positive : 0 < symbols.length := List.length_pos_iff.mpr some
  simp only [yield_splice context label some, yield_plug, Tree.yield_leaf, List.length_append,
    List.length_singleton]
  omega

end Context

end SentenceSampler
