import SentenceSampler.Proofs.Tree.Leaves

/-!
Trees with parts in place of their leaves. Main statements: an expansion of a leaf changes one of the
parts and nothing else, the leaves of the parts are all the leaves there are, and every address leads to
a node of the first tree or on into a part.
-/
namespace SentenceSampler.Tree

mutual

/-- A tree, parts that carry the labels of its leaves from left to right, and the tree that has the parts
in their place. -/
inductive Grafted : Tree → List Tree → Tree → Prop where
  | leaf (part : Tree) : Grafted (.node part.label []) [part] part
  | node {label : String} {children parts grown : List Tree} (inner : children ≠ [])
      (forest : ForestGrafted children parts grown) :
      Grafted (.node label children) parts (.node label grown)

inductive ForestGrafted : List Tree → List Tree → List Tree → Prop where
  | nil : ForestGrafted [] [] []
  | cons {tree grown : Tree} {trees own parts others : List Tree} (first : Grafted tree own grown)
      (later : ForestGrafted trees parts others) :
      ForestGrafted (tree :: trees) (own ++ parts) (grown :: others)

end

mutual

theorem Grafted.refl : (tree : Tree) → Grafted tree (tree.tokens.map leaf) tree
  | .node label [] => .leaf (.node label [])
  | .node label (child :: siblings) => by
    rw [tokens]
    exact .node (List.cons_ne_nil child siblings) (ForestGrafted.refl (child :: siblings))

theorem ForestGrafted.refl :
    (trees : List Tree) → ForestGrafted trees ((forestTokens trees).map leaf) trees
  | [] => .nil
  | tree :: trees => by
    rw [forestTokens, List.map_append]
    exact .cons (Grafted.refl tree) (ForestGrafted.refl trees)

end

theorem ForestGrafted.length_eq {trees parts grown : List Tree} :
    ForestGrafted trees parts grown → grown.length = trees.length
  | .nil => rfl
  | .cons _ later => congrArg (· + 1) later.length_eq

theorem ForestGrafted.ne_nil {trees parts grown : List Tree} (forest : ForestGrafted trees parts grown)
    (inner : trees ≠ []) : grown ≠ [] := by
  rintro rfl
  exact inner (List.length_eq_zero_iff.mp forest.length_eq.symm)

mutual

theorem Grafted.tokens_eq {tree grown : Tree} {parts : List Tree} :
    Grafted tree parts grown → tree.tokens = parts.map label ∧ grown.tokens = forestTokens parts
  | .leaf part => by simp [tokens, forestTokens]
  | .node inner forest => by
    rw [tokens_node_of_ne_nil inner, tokens_node_of_ne_nil (forest.ne_nil inner)]
    exact forest.tokens_eq

theorem ForestGrafted.tokens_eq {trees parts grown : List Tree} :
    ForestGrafted trees parts grown →
      forestTokens trees = parts.map label ∧ forestTokens grown = forestTokens parts
  | .nil => ⟨rfl, rfl⟩
  | .cons first later => by
    obtain ⟨labels, tokens⟩ := first.tokens_eq
    obtain ⟨others, rest⟩ := later.tokens_eq
    simp [forestTokens, forestTokens_append, labels, tokens, others, rest]

end

/-- The parts below one tree of a forest may be exchanged for others. -/
theorem ForestGrafted.exists_child {trees parts grown : List Tree} {index : Nat} {child : Tree} :
    ForestGrafted trees parts grown → grown[index]? = some child →
      ∃ tree before own after, trees[index]? = some tree ∧ parts = before ++ own ++ after ∧
        Grafted tree own child ∧
        ∀ {own' : List Tree} {child' : Tree}, Grafted tree own' child' →
          ForestGrafted trees (before ++ own' ++ after) (grown.set index child')
  | .nil, found => by simp at found
  | @ForestGrafted.cons tree _ _ own parts _ first later, found => by
    cases index with
    | zero =>
      obtain rfl := Option.some.inj found
      exact ⟨tree, [], own, parts, rfl, rfl, first, fun other => .cons other later⟩
    | succ index =>
      obtain ⟨tree, before, among, after, place, rfl, grafted, exchange⟩ := later.exists_child found
      refine ⟨tree, own ++ before, among, after, place, by simp, grafted, fun other => ?_⟩
      simpa using ForestGrafted.cons first (exchange other)

variable {tree grown : Tree} {parts : List Tree} {address : Address}

theorem Grafted.expandAt {symbol : String} (fresh : List Tree) (grafted : Grafted tree parts grown)
    (found : grown.nodeAt? address = some (.leaf symbol)) :
    ∃ before part after below, parts = before ++ part :: after ∧
      part.nodeAt? below = some (.leaf symbol) ∧
      Grafted tree (before ++ part.expandAt fresh below :: after) (grown.expandAt fresh address) := by
  induction address generalizing tree grown parts with
  | nil =>
    rw [nodeAt?_nil] at found
    obtain rfl := Option.some.inj found
    cases grafted with
    | leaf => exact ⟨[], .leaf symbol, [], [], rfl, rfl, .leaf (.node symbol fresh)⟩
    | node inner forest => exact absurd rfl (forest.ne_nil inner)
  | cons index address ih =>
    cases grafted with
    | leaf =>
      have same := label_expandAt fresh (index :: address) grown
      exact ⟨[], grown, [], index :: address, rfl, found, same ▸ .leaf _⟩
    | node inner forest =>
      obtain ⟨child, place, found⟩ := nodeAt?_cons_eq_some_iff.mp found
      obtain ⟨tree, left, own, right, -, rfl, among, exchange⟩ := forest.exists_child place
      obtain ⟨before, part, after, below, rfl, inside, expanded⟩ := ih among found
      refine ⟨left ++ before, part, after ++ right, below, by simp, inside, ?_⟩
      rw [Tree.expandAt, changeChild_eq_set _ place]
      exact .node inner (by simpa using exchange expanded)

/-- A node of the first tree is found at its address, with parts in place of its own leaves. -/
theorem Grafted.exists_nodeAt? {node : Tree} (grafted : Grafted tree parts grown)
    (found : tree.nodeAt? address = some node) :
    ∃ node' own, grown.nodeAt? address = some node' ∧ Grafted node own node' ∧ own ⊆ parts := by
  induction address generalizing tree grown parts with
  | nil =>
    rw [nodeAt?_nil] at found
    obtain rfl := Option.some.inj found
    exact ⟨grown, parts, nodeAt?_nil grown, grafted, List.Subset.refl parts⟩
  | cons index address ih =>
    cases grafted with
    | leaf => simp [nodeAt?] at found
    | node inner forest =>
      obtain ⟨child, place, found⟩ := nodeAt?_cons_eq_some_iff.mp found
      have within := (List.getElem?_eq_some_iff.mp place).1
      have place' := List.getElem?_eq_getElem (forest.length_eq.symm ▸ within)
      obtain ⟨tree, left, own, right, same, rfl, among, _⟩ := forest.exists_child place'
      obtain rfl := Option.some.inj (place.symm.trans same)
      obtain ⟨node', parts, inside, rest, part⟩ := ih among found
      refine ⟨node', parts, nodeAt?_cons_eq_some_iff.mpr ⟨_, place', inside⟩, rest, ?_⟩
      exact fun other member => by simp [part member]

/-- The nodes with children are still there, with their labels and as many children. -/
def Keeps (tree grown : Tree) : Prop :=
  ∀ address label children, children ≠ [] → tree.nodeAt? address = some (.node label children) →
    ∃ kept, grown.nodeAt? address = some (.node label kept) ∧ kept.length = children.length

theorem Grafted.keeps (grafted : Grafted tree parts grown) : tree.Keeps grown := by
  intro address label children inner found
  obtain ⟨node, own, place, part, -⟩ := grafted.exists_nodeAt? found
  cases part with
  | leaf => exact absurd rfl inner
  | node _ forest => exact ⟨_, place, forest.length_eq⟩

/-- There are no nodes besides those of the first tree and those of the parts. -/
theorem Grafted.nodeAt?_or_below {node' : Tree} (grafted : Grafted tree parts grown)
    (found : grown.nodeAt? address = some node') :
    (∃ node, tree.nodeAt? address = some node) ∨
      ∃ above below symbol, address = above ++ below ∧
        tree.nodeAt? above = some (.leaf symbol) := by
  induction address generalizing tree grown parts with
  | nil => exact .inl ⟨tree, nodeAt?_nil tree⟩
  | cons index address ih =>
    cases grafted with
    | leaf => exact .inr ⟨[], index :: address, grown.label, rfl, rfl⟩
    | node inner forest =>
      obtain ⟨child, place, found⟩ := nodeAt?_cons_eq_some_iff.mp found
      obtain ⟨tree, left, own, right, same, rfl, among, _⟩ := forest.exists_child place
      rcases ih among found with ⟨node, inside⟩ | ⟨above, below, symbol, rfl, inside⟩
      · exact .inl ⟨node, nodeAt?_cons_eq_some_iff.mpr ⟨tree, same, inside⟩⟩
      · exact .inr ⟨index :: above, below, symbol, rfl,
          nodeAt?_cons_eq_some_iff.mpr ⟨tree, same, inside⟩⟩

end SentenceSampler.Tree
