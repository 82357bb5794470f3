import SentenceSampler.Command.Sampling

/-!
Trees read back from their records. Main statement: the record of a tree in a sample gives that tree, where
a record without children stands for a leaf.
-/
namespace SentenceSampler

open Json (Value)

namespace Tree

/-- The text that a member of a record holds. -/
def textOf? (key : String) (members : List (String × Value)) : Option String :=
  match members.lookup key with
  | some (.text value) => some value
  | _ => none

mutual

/-- The tree that a record stands for, whatever the order of its members. -/
def ofRecord? : Value → Option Tree
  | .object members => do
    let label ← textOf? "label" members
    let children ← childrenOf? members
    some (.node label children)
  | .text _ => none
  | .list _ => none
termination_by structural value => value

/-- The children among the members of a record; a member that is missing stands for none. -/
def childrenOf? : List (String × Value) → Option (List Tree)
  | [] => some []
  | member :: members => childrenIn? member (childrenOf? members)
termination_by structural members => members

/-- The children in a member if it is the one that holds them, and otherwise those of the members behind. -/
def childrenIn? : String × Value → Option (List Tree) → Option (List Tree)
  | (key, value), later => if key = "children" then ofList? value else later
termination_by structural member => member

/-- The trees of a list of records. -/
def ofList? : Value → Option (List Tree)
  | .list items => ofRecords? items
  | .text _ => none
  | .object _ => none
termination_by structural value => value

def ofRecords? : List Value → Option (List Tree)
  | [] => some []
  | item :: items => do
    let tree ← ofRecord? item
    let trees ← ofRecords? items
    some (tree :: trees)
termination_by structural items => items

end

open Command (treeRecord treeRecords)

mutual

theorem ofRecord?_treeRecord : ∀ tree : Tree, ofRecord? (treeRecord tree) = some tree
  | .node label [] => by
    simp [treeRecord, ofRecord?, textOf?, childrenOf?, childrenIn?]
  | .node label (child :: siblings) => by
    have children := ofRecords?_treeRecords (child :: siblings)
    simp [treeRecord, ofRecord?, textOf?, List.lookup_cons, childrenOf?, childrenIn?, ofList?, children]

theorem ofRecords?_treeRecords : ∀ trees : List Tree, ofRecords? (treeRecords trees) = some trees
  | [] => by simp [treeRecords, ofRecords?]
  | tree :: trees => by
    have first := ofRecord?_treeRecord tree
    have others := ofRecords?_treeRecords trees
    simp [treeRecords, ofRecords?, first, others]

end

end Tree

end SentenceSampler
