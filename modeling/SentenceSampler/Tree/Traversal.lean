import SentenceSampler.Sentence
import SentenceSampler.Tree.Address

/-!
The leaves of a tree from left to right, by a list of nodes that are still to be visited.
-/
namespace SentenceSampler.Tree

/-- The labels of the leaves of the pending trees, behind the tokens found so far, which are kept
in reverse. -/
def collectYield : List Tree → List String → List String
  | [], tokens => tokens.reverse
  | .node label [] :: pending, tokens => collectYield pending (label :: tokens)
  | .node _ (child :: siblings) :: pending, tokens =>
    collectYield (child :: siblings ++ pending) tokens
termination_by pending => forestCount pending
decreasing_by
  · simp only [forestCount, nodeCount]; omega
  · simp only [forestCount, nodeCount, forestCount_append, List.cons_append]; omega

/-- The labels of all leaves. -/
def yield (tree : Tree) : List String := collectYield [tree] []

/-- The children of a node at an address, each with its own address. -/
def placeChildren (address : Address) (children : List Tree) : List (Tree × Address) :=
  children.zipIdx.map fun (child, index) => (child, childAddress address index)

theorem placeChildren_fst (address : Address) (children : List Tree) :
    (placeChildren address children).map Prod.fst = children := by
  simp [placeChildren, Function.comp_def]

/-- The addresses of the leaves of the pending trees, behind the ones found so far, which are kept
in reverse. -/
def collectAddresses : List (Tree × Address) → List Address → List Address
  | [], found => found.reverse
  | (.node _ [], address) :: pending, found => collectAddresses pending (address :: found)
  | (.node _ (child :: siblings), address) :: pending, found =>
    collectAddresses (placeChildren address (child :: siblings) ++ pending) found
termination_by pending => forestCount (pending.map Prod.fst)
decreasing_by
  · simp only [List.map_cons, forestCount, nodeCount]; omega
  · simp only [List.map_append, List.map_cons, placeChildren_fst, forestCount, nodeCount,
      forestCount_append]
    omega

/-- The addresses of all leaves. -/
def leafAddresses (tree : Tree) : List Address := collectAddresses [(tree, [])] []

/-- The yield as a sentence. -/
def text (tree : Tree) : String := Sentence.join tree.yield

end SentenceSampler.Tree
