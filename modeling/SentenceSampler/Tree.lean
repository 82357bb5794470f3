/-!
Derivation trees: a label and an ordered list of subtrees at every node. A leaf carries a token or a
symbol that is still to be expanded.
-/
namespace SentenceSampler

inductive Tree where
  | node (label : String) (children : List Tree)
deriving Repr

namespace Tree

def leaf (label : String) : Tree := .node label []

def label : Tree → String
  | .node label _ => label

def children : Tree → List Tree
  | .node _ children => children

def isLeaf (tree : Tree) : Bool := tree.children.isEmpty

mutual

/-- The number of nodes on the longest path from the root to a leaf. -/
def depth : Tree → Nat
  | .node _ children => 1 + forestDepth children

def forestDepth : List Tree → Nat
  | [] => 0
  | tree :: trees => max tree.depth (forestDepth trees)

end

mutual

def nodeCount : Tree → Nat
  | .node _ children => 1 + forestCount children

def forestCount : List Tree → Nat
  | [] => 0
  | tree :: trees => tree.nodeCount + forestCount trees

end

mutual

def decideEq : (left right : Tree) → Decidable (left = right)
  | .node label children, .node label' children' =>
    if same : label = label' then
      match decideForestEq children children' with
      | .isTrue equal => .isTrue (by rw [same, equal])
      | .isFalse unequal => .isFalse (by simp [unequal])
    else .isFalse (by simp [same])

def decideForestEq : (left right : List Tree) → Decidable (left = right)
  | [], [] => .isTrue rfl
  | [], _ :: _ => .isFalse (by simp)
  | _ :: _, [] => .isFalse (by simp)
  | tree :: trees, tree' :: trees' =>
    match decideEq tree tree' with
    | .isFalse unequal => .isFalse (by simp [unequal])
    | .isTrue equal => match decideForestEq trees trees' with
      | .isTrue rest => .isTrue (by rw [equal, rest])
      | .isFalse unequal => .isFalse (by simp [unequal])

end

instance : DecidableEq Tree := decideEq

theorem forestCount_append (left right : List Tree) :
    forestCount (left ++ right) = forestCount left + forestCount right := by
  induction left with
  | nil => simp [forestCount]
  | cons tree trees ih => simp [forestCount, ih, Nat.add_assoc]

theorem nodeCount_pos (tree : Tree) : 0 < tree.nodeCount := by
  cases tree
  simp only [nodeCount]
  omega

end Tree

end SentenceSampler
