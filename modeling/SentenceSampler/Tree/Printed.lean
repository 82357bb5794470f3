import SentenceSampler.Json.Value
import SentenceSampler.Tree

/-!
Trees as bracketed texts and as JSON.
-/
namespace SentenceSampler.Tree

mutual

/-- A leaf is its label, any other node its label and children between brackets. -/
def showBefore : Tree → List Char → List Char
  | .node label [], rest => label.toList ++ rest
  | .node label (child :: siblings), rest =>
    '[' :: ' ' :: (label.toList ++ showEach (child :: siblings) (' ' :: ']' :: rest))

def showEach : List Tree → List Char → List Char
  | [], rest => rest
  | tree :: trees, rest => ' ' :: tree.showBefore (showEach trees rest)

end

def shown (tree : Tree) : String := String.ofList (tree.showBefore [])

mutual

/-- A leaf has no member for its children. -/
def toJson : Tree → Json.Value
  | .node label [] => .object [("label", .text label)]
  | .node label (child :: siblings) =>
    .object [("label", .text label), ("children", .list (toJsonEach (child :: siblings)))]

def toJsonEach : List Tree → List Json.Value
  | [] => []
  | tree :: trees => tree.toJson :: toJsonEach trees

end

end SentenceSampler.Tree
