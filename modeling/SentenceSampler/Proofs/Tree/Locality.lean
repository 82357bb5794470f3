import SentenceSampler.Proofs.Tree.Order
import SentenceSampler.Proofs.Tree.Splice

/-!
What one expansion of a leaf leaves alone. Main statement: it puts the fresh leaves in the place of the old
one, in the yield and among the leaf addresses, and no node besides those below the address is changed.
-/
namespace SentenceSampler

namespace Tree

/-- What is seen of a node without a look at its children. -/
def outline (tree : Tree) : String × Nat := (tree.label, tree.children.length)

theorem outline_expandAt (fresh : List Tree) {address other : Address} (apart : ¬ address <+: other)
    (tree : Tree) :
    ((tree.expandAt fresh address).nodeAt? other).map outline = (tree.nodeAt? other).map outline := by
  induction address generalizing tree other with
  | nil => exact absurd List.nil_prefix apart
  | cons index address ih =>
    obtain ⟨label, children⟩ := tree
    cases other with
    | nil => simp [nodeAt?_nil, expandAt, outline, Tree.label, Tree.children, changeChild_eq]
    | cons step other =>
      rw [expandAt, changeChild_eq, nodeAt?, nodeAt?, List.getElem?_modify]
      by_cases same : index = step
      · subst same
        have below : ¬ address <+: other := fun found => apart (List.cons_prefix_cons.mpr ⟨rfl, found⟩)
        cases children[index]? with
        | none => rfl
        | some child => simpa using ih below child
      · -- The ways part here, and the child that is entered is kept as it is.
        cases children[step]? with
        | none => rfl
        | some child => simp [same]

/-- A leaf that is listed by its number fills a hole that has as many leaves to its left. -/
theorem exists_hole_of_leafAddresses {tree : Tree} {index : Nat} {address : Address}
    (place : tree.leafAddresses[index]? = some address) :
    ∃ (context : Context) (symbol : String), tree = context.plug (.leaf symbol) ∧
      context.address = address ∧ tree.leaves[index]? = some (address, symbol) ∧
      context.leavesBefore = tree.leaves.take index ∧
      context.leavesAfter = tree.leaves.drop (index + 1) := by
  rw [leafAddresses_eq_leaves, List.getElem?_map, Option.map_eq_some_iff] at place
  obtain ⟨⟨_, symbol⟩, listed, rfl⟩ := place
  obtain ⟨within, same⟩ := List.getElem?_eq_some_iff.mp listed
  have split : tree.leaves = tree.leaves.take index ++ tree.leaves[index] :: tree.leaves.drop (index + 1) := by
    rw [← List.drop_eq_getElem_cons within, List.take_append_drop]
  rw [same] at split
  obtain ⟨context, filled, found, before, after⟩ := Context.exists_of_leaves split
  exact ⟨context, symbol, filled.symm, found, listed, before, after⟩

theorem map_leaf_map_label {trees : List Tree} (leaves : ∀ tree ∈ trees, tree.isLeaf = true) :
    (trees.map label).map leaf = trees := by
  rw [List.map_map]
  exact (List.map_congr_left fun tree member => (isLeaf_iff.mp (leaves tree member)).symm).trans
    (List.map_id trees)

/-- An expansion of the leaf with a given number by fresh leaves, one at least. It takes place at a leaf; the
labels of the fresh leaves take the place of its token, and their addresses that of its address. As many
nodes are added, and the depth reaches one node further down than to the leaf if it did not already. The
nodes that are not at the address or below keep their labels and the number of their children. -/
theorem expandAt_local {tree : Tree} {index : Nat} {address : Address} {fresh : List Tree}
    (place : tree.leafAddresses[index]? = some address) (inner : fresh ≠ [])
    (leaves : ∀ child ∈ fresh, child.isLeaf = true) :
    let grown := tree.expandAt fresh address
    (∃ symbol, tree.nodeAt? address = some (leaf symbol) ∧ tree.yield[index]? = some symbol ∧
        grown.nodeAt? address = some (node symbol fresh)) ∧
      grown.yield = tree.yield.take index ++ fresh.map label ++ tree.yield.drop (index + 1) ∧
      grown.leafAddresses = tree.leafAddresses.take index ++
        (List.range fresh.length).map (fun step => address ++ [step]) ++
        tree.leafAddresses.drop (index + 1) ∧
      grown.nodeCount = tree.nodeCount + fresh.length ∧
      grown.depth = max tree.depth (address.length + 2) ∧
      ∀ other, ¬ address <+: other →
        (grown.nodeAt? other).map outline = (tree.nodeAt? other).map outline := by
  intro grown
  obtain ⟨context, symbol, filled, rfl, listed, before, after⟩ := exists_hole_of_leafAddresses place
  have some : fresh.map label ≠ [] := by simpa using inner
  have spliced : grown = context.plug (.node symbol ((fresh.map label).map leaf)) := by
    calc grown = (context.plug (.leaf symbol)).expandAt fresh context.address := by rw [← filled]
      _ = context.plug (.node symbol fresh) := context.expandAt_plug fresh symbol []
      _ = _ := by rw [map_leaf_map_label leaves]
  have below : childAddress context.address = fun step => context.address ++ [step] :=
    funext (childAddress_eq context.address)
  refine ⟨⟨symbol, ?_, ?_, ?_⟩, ?_, ?_, ?_, ?_, fun other apart => outline_expandAt fresh apart tree⟩
  · exact Context.nodeAt?_of_filled filled
  · rw [yield_eq_leaves, List.getElem?_map, listed, Option.map_some]
  · rw [Context.nodeAt?_of_filled spliced, map_leaf_map_label leaves]
  · rw [spliced, context.yield_splice symbol some, before, after, yield_eq_leaves, List.map_take,
      List.map_drop]
  · rw [spliced, context.leafAddresses_splice symbol some, before, after, leafAddresses_eq_leaves,
      List.map_take, List.map_drop, List.length_map, below]
  · rw [spliced, context.nodeCount_splice, ← filled, List.length_map]
  · rw [spliced, context.depth_splice symbol some, ← filled]

/-- The second leaf, one node further down than the first, gets two children. -/
theorem expandAt_local_second :
    let tree : Tree := .node "S" [.leaf "x", .node "N" [.leaf "y"]]
    let grown := tree.expandAt [.leaf "a", .leaf "b"] [1, 0]
    tree.leafAddresses[1]? = some [1, 0] ∧ grown.yield = ["x", "a", "b"] ∧
      grown.leafAddresses = [[0], [1, 0, 0], [1, 0, 1]] ∧ grown.nodeCount = 4 + 2 ∧
      grown.depth = max 3 (2 + 2) ∧ (grown.nodeAt? [1]).map outline = some ("N", 1) := by
  let tree : Tree := .node "S" [.leaf "x", .node "N" [.leaf "y"]]
  have addresses : tree.leafAddresses = [[0], [1, 0]] := by cbv
  have tokens : tree.yield = ["x", "y"] := by cbv
  have place : tree.leafAddresses[1]? = some [1, 0] := by rw [addresses]; rfl
  obtain ⟨-, yield, leafAddresses, nodeCount, depth, apart⟩ :=
    expandAt_local place (show [Tree.leaf "a", .leaf "b"] ≠ [] by decide) (by decide)
  rw [tokens] at yield
  rw [addresses] at leafAddresses
  exact ⟨place, yield, leafAddresses, nodeCount, depth, apart [1] (by decide)⟩

end Tree

end SentenceSampler
