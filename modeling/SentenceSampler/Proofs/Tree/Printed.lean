import SentenceSampler.Proofs.Json.Value
import SentenceSampler.Proofs.Tree.Record
import SentenceSampler.Tree.Address
import SentenceSampler.Tree.Printed

/-!
Trees read back from their JSON texts. Main statement: the text of a tree gives that tree, so different trees
have different texts, and no choice of labels changes which nodes are read.
-/
namespace SentenceSampler.Tree

open Json (Value parse parse_compact)

/-! The tree that a text stands for -/

/-- The tree that is written as JSON, however deep, where a node without children may leave them out. -/
def ofJson? (text : String) : Option Tree :=
  match parse text with
  | .ok value => ofRecord? value
  | .error _ => none

theorem ofJson?_compact_eq (value : Value) : ofJson? value.compact = ofRecord? value := by
  rw [ofJson?, parse_compact]

mutual

theorem ofRecord?_toJson : ∀ tree : Tree, ofRecord? tree.toJson = some tree
  | .node label [] => by
    simp [toJson, ofRecord?, textOf?, childrenOf?, childrenIn?]
  | .node label (child :: siblings) => by
    have children := ofRecords?_toJsonEach (child :: siblings)
    simp [toJson, ofRecord?, textOf?, childrenOf?, childrenIn?, ofList?, children]

theorem ofRecords?_toJsonEach : ∀ trees : List Tree, ofRecords? (toJsonEach trees) = some trees
  | [] => by simp [toJsonEach, ofRecords?]
  | tree :: trees => by
    have first := ofRecord?_toJson tree
    have others := ofRecords?_toJsonEach trees
    simp [toJsonEach, ofRecords?, first, others]

end

theorem ofJson?_toJson (tree : Tree) : ofJson? tree.toJson.compact = some tree := by
  rw [ofJson?_compact_eq, ofRecord?_toJson]

theorem compact_injective : Function.Injective fun tree : Tree => tree.toJson.compact := by
  intro tree other same
  have read := congrArg ofJson? same
  rw [ofJson?_toJson, ofJson?_toJson] at read
  exact Option.some.inj read

theorem exists_members (tree : Tree) :
    ∃ members, tree.toJson = .object members ∧
      ("children" ∈ members.map Prod.fst ↔ tree.isLeaf = false) := by
  obtain ⟨label, children⟩ := tree
  cases children with
  | nil => exact ⟨_, rfl, by simp [isLeaf, Tree.children]⟩
  | cons child siblings => exact ⟨_, rfl, by simp [isLeaf, Tree.children]⟩

/-! Other labels at the same nodes -/

mutual

/-- The tree with the label that is chosen for each address. -/
def relabel (name : Address → String) : Tree → Tree
  | .node _ children => .node (name []) (relabelEach name 0 children)

def relabelEach (name : Address → String) (index : Nat) : List Tree → List Tree
  | [] => []
  | tree :: trees =>
    tree.relabel (fun address => name (index :: address)) :: relabelEach name (index + 1) trees

end

theorem getElem?_relabelEach (name : Address → String) (first : Nat) (trees : List Tree) (index : Nat) :
    (relabelEach name first trees)[index]? =
      trees[index]?.map fun tree => tree.relabel fun address => name ((first + index) :: address) := by
  induction trees generalizing first index with
  | nil => rfl
  | cons tree trees ih =>
    cases index with
    | zero => rfl
    | succ index =>
      have behind : first + 1 + index = first + (index + 1) := by omega
      simp only [relabelEach, List.getElem?_cons_succ, ih, behind]

theorem length_relabelEach (name : Address → String) (first : Nat) (trees : List Tree) :
    (relabelEach name first trees).length = trees.length := by
  induction trees generalizing first with
  | nil => rfl
  | cons tree trees ih => rw [relabelEach, List.length_cons, List.length_cons, ih]

theorem nodeAt?_relabel (tree : Tree) (name : Address → String) (address : Address) :
    (tree.relabel name).nodeAt? address =
      (tree.nodeAt? address).map fun node => node.relabel fun below => name (address ++ below) := by
  induction address generalizing tree name with
  | nil => simp [nodeAt?_nil]
  | cons index address ih =>
    cases tree with
    | node label children =>
      simp only [relabel, nodeAt?, getElem?_relabelEach, Nat.zero_add]
      cases children[index]? with
      | none => rfl
      | some child => exact ih child _

theorem label_relabel (tree : Tree) (name : Address → String) : (tree.relabel name).label = name [] := by
  cases tree
  rfl

theorem length_children_relabel (tree : Tree) (name : Address → String) :
    (tree.relabel name).children.length = tree.children.length := by
  cases tree with
  | node label children => exact length_relabelEach name 0 children

/-- Whatever the labels are, every node stays where it is and keeps the number of its children. -/
theorem nodes_relabel (tree : Tree) (name : Address → String) (address : Address) :
    ((tree.relabel name).nodeAt? address).map (fun node => (node.label, node.children.length)) =
      (tree.nodeAt? address).map fun node => (name address, node.children.length) := by
  rw [nodeAt?_relabel, Option.map_map]
  congr 1
  funext node
  simp [label_relabel, length_children_relabel]

/-- The text of a tree says which tree it is: it is read back as that tree, no other tree has the same text,
a leaf is told from any other node by a member that is missing, and labels of any form leave the nodes and
the numbers of their children as they are. -/
theorem json_faithful (tree : Tree) :
    ofJson? tree.toJson.compact = some tree ∧
    (∀ other : Tree, other.toJson.compact = tree.toJson.compact ↔ other = tree) ∧
    (∃ members, parse tree.toJson.compact = .ok (.object members) ∧
      ("children" ∈ members.map Prod.fst ↔ tree.isLeaf = false)) ∧
    (∀ name : Address → String, ∃ read, ofJson? (tree.relabel name).toJson.compact = some read ∧
      ∀ address, (read.nodeAt? address).map (fun node => (node.label, node.children.length)) =
        (tree.nodeAt? address).map fun node => (name address, node.children.length)) := by
  refine ⟨ofJson?_toJson tree, fun other => compact_injective.eq_iff, ?_, fun name => ?_⟩
  · obtain ⟨members, written, told⟩ := exists_members tree
    exact ⟨members, by rw [written, parse_compact], told⟩
  · exact ⟨tree.relabel name, ofJson?_toJson _, nodes_relabel tree name⟩

/-- A label that is itself the text of a tree. -/
example :
    (leaf "\x7b\"label\":\"a\"\x7d").toJson.compact = "\x7b\"label\":\"\x7b\\\"label\\\":\\\"a\\\"\x7d\"\x7d" := by
  decide

end SentenceSampler.Tree
