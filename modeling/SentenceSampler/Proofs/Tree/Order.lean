import SentenceSampler.Proofs.Tree.Context

/-!
The leaves of a tree in the order of their addresses. Main statement: both traversals of a tree list its
leaves from left to right, every leaf once and nothing else.
-/
namespace SentenceSampler

/-! Lexicographic order -/

/-- An address stands before another one if it is on the way there, or if it goes further to the left
where their ways part. -/
abbrev Address.Before : Address → Address → Prop := List.Lex (· < ·)

theorem Address.Before.trans {first second third : Address} (before : first.Before second)
    (after : second.Before third) : first.Before third :=
  List.lex_trans Nat.lt_trans before after

theorem Address.Before.ne {first second : Address} (before : first.Before second) : first ≠ second := by
  rintro rfl
  exact List.lex_irrefl Nat.lt_irrefl first before

theorem Address.Before.nodup {addresses : List Address} (ascending : addresses.Pairwise Address.Before) :
    addresses.Nodup :=
  ascending.imp Address.Before.ne

/-- Below one node, what is in an earlier child stands before what is in a later one. -/
theorem Address.before_of_lt {index step : Nat} (earlier : index < step) (address left right : Address) :
    (address ++ index :: left).Before (address ++ step :: right) := by
  apply List.append_left_lt
  exact .rel earlier

theorem Address.before_child (address : Address) (index : Nat) :
    address.Before (childAddress address index) := by
  have below : address ++ [] < address ++ [index] := List.append_left_lt (List.nil_lt_cons index [])
  rw [childAddress_eq]
  simpa using below

namespace Tree

/-! Leaves of trees at an address -/

mutual

theorem exists_below_of_leavesAt {address : Address} {leaf : Address × String} :
    (tree : Tree) → leaf ∈ leavesAt address tree → ∃ below, leaf.1 = address ++ below
  | .node label [], member => by
    rw [leavesAt, List.mem_singleton] at member
    exact ⟨[], by simp [member]⟩
  | .node label (child :: siblings), member => by
    rw [leavesAt] at member
    obtain ⟨step, below, -, place⟩ := exists_below_of_forestLeavesAt (child :: siblings) member
    exact ⟨step :: below, place⟩

theorem exists_below_of_forestLeavesAt {address : Address} {index : Nat} {leaf : Address × String} :
    (trees : List Tree) → leaf ∈ forestLeavesAt address index trees →
      ∃ step below, index ≤ step ∧ leaf.1 = address ++ step :: below
  | [], member => by simp [forestLeavesAt] at member
  | tree :: trees, member => by
    rw [forestLeavesAt] at member
    rcases List.mem_append.mp member with first | later
    · obtain ⟨below, place⟩ := exists_below_of_leavesAt tree first
      exact ⟨index, below, Nat.le_refl index, by simpa using place⟩
    · obtain ⟨step, below, least, place⟩ := exists_below_of_forestLeavesAt trees later
      exact ⟨step, below, Nat.le_of_succ_le least, place⟩

end

mutual

theorem leavesAt_ascending (address : Address) :
    (tree : Tree) → (leavesAt address tree).Pairwise fun left right => left.1.Before right.1
  | .node label [] => List.pairwise_singleton _ _
  | .node label (child :: siblings) => by
    rw [leavesAt]
    exact forestLeavesAt_ascending address 0 (child :: siblings)

theorem forestLeavesAt_ascending (address : Address) (index : Nat) :
    (trees : List Tree) →
      (forestLeavesAt address index trees).Pairwise fun left right => left.1.Before right.1
  | [] => .nil
  | tree :: trees => by
    rw [forestLeavesAt]
    apply List.pairwise_append.mpr
    refine ⟨leavesAt_ascending _ tree, forestLeavesAt_ascending address (index + 1) trees, ?_⟩
    intro left first right later
    obtain ⟨below, place⟩ := exists_below_of_leavesAt tree first
    obtain ⟨step, further, least, place'⟩ := exists_below_of_forestLeavesAt trees later
    rw [place, place', List.append_assoc]
    exact Address.before_of_lt least address below further

end

/-! Leaves of a tree -/

theorem isLeaf_iff {tree : Tree} : tree.isLeaf = true ↔ tree = leaf tree.label := by
  obtain ⟨label, children⟩ := tree
  simp [isLeaf, Tree.children, leaf, Tree.label]

theorem mem_leaves_iff {tree : Tree} {address : Address} {label : String} :
    (address, label) ∈ tree.leaves ↔ tree.nodeAt? address = some (leaf label) := by
  constructor
  · intro member
    obtain ⟨done, later, split⟩ := List.append_of_mem member
    obtain ⟨context, filled, place, -, -⟩ := Context.exists_of_leaves split
    rw [← filled, ← place]
    exact context.nodeAt?_plug (leaf label)
  · intro found
    obtain ⟨context, filled, place⟩ := Context.exists_of_nodeAt? found
    rw [← filled, context.leaves_plug, place]
    simp [leaf, leavesAt]

theorem mem_leafAddresses_iff {tree : Tree} {address : Address} :
    address ∈ tree.leafAddresses ↔ ∃ label, tree.nodeAt? address = some (leaf label) := by
  simp [leafAddresses_eq_leaves, mem_leaves_iff]

theorem leafAddresses_ascending (tree : Tree) : tree.leafAddresses.Pairwise Address.Before := by
  rw [leafAddresses_eq_leaves, List.pairwise_map]
  exact leavesAt_ascending [] tree

/-- The node at the address of every leaf is that leaf. -/
theorem leafAddresses_map_nodeAt? (tree : Tree) :
    tree.leafAddresses.map tree.nodeAt? = tree.yield.map fun token => some (leaf token) := by
  rw [leafAddresses_eq_leaves, yield_eq_leaves, List.map_map, List.map_map]
  apply List.map_congr_left
  rintro ⟨address, label⟩ member
  exact mem_leaves_iff.mp member

theorem forestTokens_eq_flatMap (trees : List Tree) : forestTokens trees = trees.flatMap tokens := by
  induction trees with
  | nil => rfl
  | cons tree trees ih => rw [forestTokens, ih, List.flatMap_cons]

theorem tokens_eq (tree : Tree) :
    tree.tokens = if tree.isLeaf then [tree.label] else tree.children.flatMap tokens := by
  obtain ⟨label, children⟩ := tree
  cases children with
  | nil => simp [tokens, isLeaf, Tree.children, Tree.label]
  | cons child siblings =>
    rw [tokens, forestTokens_eq_flatMap]
    simp [isLeaf, Tree.children]

/-- The yield is the label of a leaf, and otherwise what the children yield from left to right. The leaf
addresses are the addresses of the nodes without children, each once and in lexicographic order. There are
as many of them as tokens, and each leads to the leaf with the token of the same number. -/
theorem traversals_agree (tree : Tree) :
    tree.yield = tree.tokens ∧
      (tree.tokens = if tree.isLeaf then [tree.label] else tree.children.flatMap tokens) ∧
      (∀ address, address ∈ tree.leafAddresses ↔
        ∃ node, tree.nodeAt? address = some node ∧ node.isLeaf = true) ∧
      tree.leafAddresses.Nodup ∧ tree.leafAddresses.Pairwise Address.Before ∧
      tree.leafAddresses.length = tree.yield.length ∧
      ∀ index : Nat, tree.leafAddresses[index]?.bind tree.nodeAt? = tree.yield[index]?.map leaf := by
  have nodes := leafAddresses_map_nodeAt? tree
  have ascending := leafAddresses_ascending tree
  refine ⟨yield_eq_tokens tree, tokens_eq tree, ?_, Address.Before.nodup ascending, ascending, ?_, ?_⟩
  · intro address
    rw [mem_leafAddresses_iff]
    constructor
    · rintro ⟨label, found⟩
      exact ⟨leaf label, found, rfl⟩
    · rintro ⟨node, found, childless⟩
      exact ⟨node.label, by rw [found, ← isLeaf_iff.mp childless]⟩
  · simpa using congrArg List.length nodes
  · intro index
    have same := congrArg (fun found => found[index]?) nodes
    simp only [List.getElem?_map] at same
    calc tree.leafAddresses[index]?.bind tree.nodeAt?
        = (tree.leafAddresses[index]?.map tree.nodeAt?).bind id := by
          rw [Option.bind_map, Function.id_comp]
      _ = (tree.yield[index]?.map fun token => some (leaf token)).bind id := by rw [same]
      _ = tree.yield[index]?.map leaf := by cases tree.yield[index]? <;> rfl

end Tree

end SentenceSampler
