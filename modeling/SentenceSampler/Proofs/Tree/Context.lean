import SentenceSampler.Proofs.Tree.Leaves

/-!
Trees with one subtree taken out. Main statements: an expansion at the address of the hole changes
the subtree in it and nothing around it, and every leaf of a tree is what fills some hole of it.
-/
namespace SentenceSampler

/-- A tree with a hole: the root itself, or a child between its siblings below a node that is found
on the way up to the root. -/
inductive Context where
  | root
  | child (outer : Context) (label : String) (before after : List Tree)

namespace Context

/-- The tree with its hole filled. -/
def plug : Context → Tree → Tree
  | .root, tree => tree
  | .child outer label before after, tree => outer.plug (.node label (before ++ tree :: after))

/-- Where the hole is. -/
def address : Context → Address
  | .root => []
  | .child outer _ before _ => outer.address ++ [before.length]

/-- The leaves to the left of the hole. -/
def leavesBefore : Context → List (Address × String)
  | .root => []
  | .child outer _ before _ =>
    outer.leavesBefore ++ Tree.forestLeavesAt outer.address 0 before

/-- The leaves to the right of the hole. -/
def leavesAfter : Context → List (Address × String)
  | .root => []
  | .child outer _ before after =>
    Tree.forestLeavesAt outer.address (before.length + 1) after ++ outer.leavesAfter

theorem nodeAt?_plug_append (context : Context) (tree : Tree) (below : Address) :
    (context.plug tree).nodeAt? (context.address ++ below) = tree.nodeAt? below := by
  induction context generalizing tree below with
  | root => rfl
  | child outer label before after ih =>
    rw [plug, address, List.append_assoc, List.singleton_append, ih, Tree.nodeAt?]
    simp

theorem nodeAt?_plug (context : Context) (tree : Tree) :
    (context.plug tree).nodeAt? context.address = some tree := by
  simpa [Tree.nodeAt?_nil] using context.nodeAt?_plug_append tree []

theorem nodeAt?_of_filled {context : Context} {tree part : Tree} (filled : tree = context.plug part) :
    tree.nodeAt? context.address = some part := by
  rw [filled, nodeAt?_plug]

private theorem changeChild_length (change : Tree → Tree) (before after : List Tree) (tree : Tree) :
    Tree.changeChild change before.length (before ++ tree :: after) =
      before ++ change tree :: after := by
  rw [Tree.changeChild_eq, List.modify_eq_take_cons_drop (by simp)]
  simp

private theorem expandAt_plug_append (context : Context) (fresh : List Tree) (tree : Tree)
    (below : Address) :
    (context.plug tree).expandAt fresh (context.address ++ below) =
      context.plug (tree.expandAt fresh below) := by
  induction context generalizing tree below with
  | root => rfl
  | child outer label before after ih =>
    rw [plug, address, List.append_assoc, List.singleton_append, ih, Tree.expandAt,
      changeChild_length, plug]

/-- An expansion at the hole is an expansion of what fills it. -/
theorem expandAt_plug (context : Context) (fresh : List Tree) (label : String)
    (children : List Tree) :
    (context.plug (.node label children)).expandAt fresh context.address =
      context.plug (.node label fresh) := by
  simpa [Tree.expandAt] using context.expandAt_plug_append fresh (.node label children) []

theorem leaves_plug (context : Context) (tree : Tree) :
    (context.plug tree).leaves =
      context.leavesBefore ++ Tree.leavesAt context.address tree ++ context.leavesAfter := by
  induction context generalizing tree with
  | root => simp [plug, leavesBefore, leavesAfter, address, Tree.leaves]
  | child outer label before after ih =>
    rw [plug, ih, Tree.leavesAt_node_of_ne_nil (by simp), Tree.forestLeavesAt_append,
      Tree.forestLeavesAt]
    simp [leavesBefore, leavesAfter, address]

theorem yield_plug (context : Context) (tree : Tree) :
    (context.plug tree).yield =
      context.leavesBefore.map Prod.snd ++ tree.yield ++ context.leavesAfter.map Prod.snd := by
  rw [Tree.yield_eq_leaves, leaves_plug, List.map_append, List.map_append, Tree.leavesAt_map_snd,
    Tree.yield_eq_tokens]

/-- A leaf among those of two neighbours is a leaf of one of them. -/
theorem split_around {α : Type} {first second done later : List α} {leaf : α}
    (split : first ++ second = done ++ leaf :: later) :
    (∃ rest, first = done ++ leaf :: rest ∧ later = rest ++ second) ∨
      ∃ rest, done = first ++ rest ∧ second = rest ++ leaf :: later := by
  rcases List.append_eq_append_iff.mp split with ⟨rest, skipped, found⟩ | ⟨rest, found, split⟩
  · exact .inr ⟨rest, skipped, found⟩
  · cases rest with
    | nil => exact .inr ⟨[], by simpa using found.symm, by simpa using split.symm⟩
    | cons head rest =>
      obtain ⟨rfl, rfl⟩ := List.cons.inj split
      exact .inl ⟨rest, found, rfl⟩

mutual

private theorem exists_inner (context : Context) {done later : List (Address × String)}
    {address : Address} {label : String} :
    (tree : Tree) →
    Tree.leavesAt context.address tree = done ++ (address, label) :: later →
    ∃ inner : Context, inner.plug (.leaf label) = context.plug tree ∧ inner.address = address ∧
      inner.leavesBefore = context.leavesBefore ++ done ∧
      inner.leavesAfter = later ++ context.leavesAfter
  | .node own [], split => by
    rw [Tree.leavesAt, List.singleton_eq_append_iff] at split
    rcases split with ⟨rfl, same⟩ | ⟨_, absurd⟩
    · obtain ⟨same, rfl⟩ := List.cons.inj same
      cases same
      exact ⟨context, rfl, rfl, by simp, by simp⟩
    · cases absurd
  | .node own (tree :: trees), split => by
    rw [Tree.leavesAt] at split
    obtain ⟨inner, filled, place, left, right⟩ :=
      exists_inner_forest context own [] (tree :: trees) split
    exact ⟨inner, filled, place, by simpa [Tree.forestLeavesAt] using left, right⟩

private theorem exists_inner_forest (outer : Context) (own : String) (before : List Tree)
    {done later : List (Address × String)} {address : Address} {label : String} :
    (trees : List Tree) →
    Tree.forestLeavesAt outer.address before.length trees = done ++ (address, label) :: later →
    ∃ inner : Context, inner.plug (.leaf label) = outer.plug (.node own (before ++ trees)) ∧
      inner.address = address ∧
      inner.leavesBefore =
        outer.leavesBefore ++ Tree.forestLeavesAt outer.address 0 before ++ done ∧
      inner.leavesAfter = later ++ outer.leavesAfter
  | [], split => by simp [Tree.forestLeavesAt] at split
  | tree :: trees, split => by
    rw [Tree.forestLeavesAt] at split
    rcases split_around split with ⟨rest, found, rfl⟩ | ⟨rest, rfl, found⟩
    · obtain ⟨inner, filled, place, left, right⟩ :=
        exists_inner (.child outer own before trees) tree found
      exact ⟨inner, filled, place, left, by simpa [leavesAfter] using right⟩
    · obtain ⟨inner, filled, place, left, right⟩ :=
        exists_inner_forest outer own (before ++ [tree]) trees (by simpa using found)
      refine ⟨inner, by simpa using filled, place, ?_, right⟩
      simp [left, Tree.forestLeavesAt_append, Tree.forestLeavesAt]

end

/-- Every leaf of a tree fills a hole of it, and the other leaves are those around the hole. -/
theorem exists_of_leaves {tree : Tree} {done later : List (Address × String)}
    {address : Address} {label : String}
    (split : tree.leaves = done ++ (address, label) :: later) :
    ∃ context : Context, context.plug (.leaf label) = tree ∧ context.address = address ∧
      context.leavesBefore = done ∧ context.leavesAfter = later := by
  obtain ⟨context, filled, place, left, right⟩ := exists_inner .root tree split
  exact ⟨context, filled, place, by simpa [leavesBefore] using left,
    by simpa [leavesAfter] using right⟩

private theorem exists_inner_of_nodeAt? (outer : Context) {tree node : Tree} {address : Address}
    (found : tree.nodeAt? address = some node) :
    ∃ inner : Context, inner.plug node = outer.plug tree ∧
      inner.address = outer.address ++ address := by
  induction address generalizing outer tree with
  | nil =>
    rw [Tree.nodeAt?_nil] at found
    obtain rfl := Option.some.inj found
    exact ⟨outer, rfl, by simp⟩
  | cons index address ih =>
    obtain ⟨label, children⟩ := tree
    obtain ⟨child, place, found⟩ := Tree.nodeAt?_cons_eq_some_iff.mp found
    obtain ⟨within, rfl⟩ := List.getElem?_eq_some_iff.mp place
    obtain ⟨inner, filled, below⟩ :=
      ih (.child outer label (children.take index) (children.drop (index + 1))) found
    refine ⟨inner, ?_, ?_⟩
    · rw [filled, plug, ← List.drop_eq_getElem_cons within, List.take_append_drop]
    · rw [below, Context.address, List.length_take_of_le (Nat.le_of_lt within)]
      simp

theorem exists_of_nodeAt? {tree node : Tree} {address : Address}
    (found : tree.nodeAt? address = some node) :
    ∃ context : Context, context.plug node = tree ∧ context.address = address := by
  obtain ⟨context, filled, place⟩ := exists_inner_of_nodeAt? .root found
  exact ⟨context, filled, place⟩

end Context

end SentenceSampler
