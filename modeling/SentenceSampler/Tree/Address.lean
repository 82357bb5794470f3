import SentenceSampler.Tree

/-!
Nodes addressed by the child indices that lead to them from the root.
-/
namespace SentenceSampler

abbrev Address := List Nat

/-- The address of a child of the node at an address. -/
def childAddress : Address → Nat → Address
  | [], index => [index]
  | step :: address, index => step :: childAddress address index

theorem childAddress_eq (address : Address) (index : Nat) :
    childAddress address index = address ++ [index] := by
  induction address with
  | nil => rfl
  | cons step address ih => simp [childAddress, ih]

namespace Tree

/-- The node at an address, if there is one. -/
def nodeAt? : Tree → Address → Option Tree
  | tree, [] => some tree
  | .node _ children, index :: address =>
    match children[index]? with
    | none => none
    | some child => child.nodeAt? address

/-- One child changed and its siblings kept. -/
@[specialize]
def changeChild (change : Tree → Tree) : Nat → List Tree → List Tree
  | _, [] => []
  | 0, child :: later => change child :: later
  | index + 1, child :: later => child :: changeChild change index later

theorem changeChild_eq (change : Tree → Tree) (index : Nat) (children : List Tree) :
    changeChild change index children = children.modify index change := by
  induction children generalizing index with
  | nil => cases index <;> rfl
  | cons child later ih => cases index <;> simp [changeChild, ih]

theorem changeChild_eq_set (change : Tree → Tree) {index : Nat} {children : List Tree} {child : Tree}
    (found : children[index]? = some child) :
    changeChild change index children = children.set index (change child) := by
  have : Inhabited Tree := ⟨child⟩
  rw [changeChild_eq, List.modify_eq_set, found, Option.getD_some]

/-- The tree whose node at an address has the given children; the same tree where there is no such
node. -/
def expandAt (fresh : List Tree) : Address → Tree → Tree
  | [], .node label _ => .node label fresh
  | index :: address, .node label children =>
    .node label (changeChild (expandAt fresh address) index children)

theorem label_expandAt (fresh : List Tree) (address : Address) (tree : Tree) :
    (tree.expandAt fresh address).label = tree.label := by
  cases tree
  cases address <;> rfl

theorem nodeAt?_nil (tree : Tree) : tree.nodeAt? [] = some tree := by
  cases tree
  rfl

theorem nodeAt?_cons_eq_some_iff {label : String} {children : List Tree} {index : Nat}
    {address : Address} {found : Tree} :
    (node label children).nodeAt? (index :: address) = some found ↔
      ∃ child, children[index]? = some child ∧ child.nodeAt? address = some found := by
  cases place : children[index]? <;> simp [nodeAt?, place]

theorem nodeAt?_append (tree : Tree) (first second : Address) :
    tree.nodeAt? (first ++ second) =
      (tree.nodeAt? first).bind fun node => node.nodeAt? second := by
  induction first generalizing tree with
  | nil => simp [nodeAt?_nil]
  | cons index address ih =>
    cases tree with
    | node label children =>
      simp only [List.cons_append, nodeAt?]
      cases children[index]? with
      | none => rfl
      | some child => exact ih child

end Tree

end SentenceSampler
