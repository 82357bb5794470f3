import SentenceSampler.Proofs.Chooser.Answers
import SentenceSampler.Proofs.Derivation.Choices
import SentenceSampler.Proofs.Growth

/-!
Derivation trees as sequences of choices. Main statements: a chooser that answers with the choices of a
tree lets the tree grow, and where the rules are distinct no other one does.
-/
namespace SentenceSampler

namespace Growth

open Chooser (Answers)

variable {σ : Type} {grammar : Grammar} {choose : Chooser σ} {budget : Nat} {chooser last : σ}
variable {label : Symbol} {tree : Tree} {trees : List Tree}

/-- From its root, and with the choices it stands for, a tree grows within as many expansions as it
has nodes with children. -/
def Follows (grammar : Grammar) (choose : Chooser σ) (tree : Tree) : Prop :=
  ∀ {budget : Nat} {chooser last : σ}, Answers choose chooser (grammar.calls tree) last →
    tree.innerCount ≤ budget → ∃ applied, applied.length = tree.innerCount ∧
      ofTree grammar choose budget chooser (.leaf tree.label) = ⟨.ok tree, last, applied⟩

theorem ofForest_follows (each : ∀ tree ∈ trees, Follows grammar choose tree)
    (answers : Answers choose chooser (grammar.forestCalls trees) last)
    (enough : Tree.forestInnerCount trees ≤ budget) :
    ∃ applied, applied.length = Tree.forestInnerCount trees ∧
      ofForest grammar choose budget chooser ((trees.map Tree.label).map .leaf) =
        ⟨.ok trees, last, applied⟩ := by
  induction trees generalizing budget chooser with
  | nil =>
    cases answers with
    | nil => exact ⟨[], rfl, by rw [List.map_nil, List.map_nil, ofForest]⟩
  | cons tree trees ih =>
    rw [Tree.forestInnerCount] at enough
    obtain ⟨middle, first, second⟩ := answers.split
    have room : tree.innerCount ≤ budget := by omega
    obtain ⟨applied, counted, grown⟩ := each tree (by simp) first room
    have left : Tree.forestInnerCount trees ≤ budget - applied.length := by omega
    obtain ⟨others, countedOthers, grownOthers⟩ :=
      ih (fun tree member => each tree (by simp [member])) second left
    refine ⟨applied ++ others, ?_, ?_⟩
    · rw [List.length_append, counted, countedOthers, Tree.forestInnerCount]
    · have result : (ofTree grammar choose budget chooser (.leaf tree.label)).result = .ok tree := by
        rw [grown]
      rw [List.map_cons, List.map_cons, ofForest_cons_ok result]
      simp only [grown, grownOthers]
      rfl

theorem follows (derives : grammar.Derives tree) : Follows grammar choose tree := by
  induction derives with
  | @leaf label terminal =>
    intro budget chooser last answers enough
    rw [Grammar.calls] at answers
    cases answers with
    | nil => exact ⟨[], by simp [Tree.innerCount], ofTree_terminal terminal⟩
  | @node label children rule _ ih =>
    intro budget chooser last answers enough
    have inner := Grammar.children_ne_nil rule
    rw [Grammar.calls_node_of_ne_nil inner] at answers
    rw [Tree.innerCount_node_of_ne_nil inner] at enough ⊢
    have nonTerminal : grammar.isNonTerminal label = true :=
      (grammar.isNonTerminal_iff label).mpr ⟨_, rule, rfl⟩
    have chosen := List.getElem?_idxOf (Grammar.mem_rulesOf rule)
    cases answers with
    | cons answer later =>
      have left : Tree.forestInnerCount children ≤ budget - 1 := by omega
      obtain ⟨applied, counted, grown⟩ := ofForest_follows ih later left
      refine ⟨⟨label, children.map Tree.label⟩ :: applied, by simp [counted, Nat.add_comm], ?_⟩
      rw [Tree.leaf, Tree.label, ofTree_expanded nonTerminal (by omega) answer chosen]
      simp only [grown]
      rfl

/-- A tree that has grown from a leaf tells the choices that were made. -/
def Tells (grammar : Grammar) (choose : Chooser σ) (tree : Tree) : Prop :=
  ∀ {budget : Nat} {chooser : σ} {label : Symbol},
    (ofTree grammar choose budget chooser (.leaf label)).result = .ok tree → label = tree.label ∧
      Answers choose chooser (grammar.calls tree)
        (ofTree grammar choose budget chooser (.leaf label)).chooser

theorem ofForest_tells (each : ∀ tree ∈ trees, Tells grammar choose tree) {symbols : List Symbol}
    (result : (ofForest grammar choose budget chooser (symbols.map .leaf)).result = .ok trees) :
    symbols = trees.map Tree.label ∧ Answers choose chooser (grammar.forestCalls trees)
      (ofForest grammar choose budget chooser (symbols.map .leaf)).chooser := by
  induction symbols generalizing budget chooser trees with
  | nil =>
    rw [List.map_nil, ofForest] at result ⊢
    obtain rfl := Except.ok.inj result
    exact ⟨rfl, .nil⟩
  | cons symbol symbols ih =>
    rw [List.map_cons] at result ⊢
    obtain ⟨part, parts, rfl, first, later, chooserLater⟩ := ofForest_cons_result result
    obtain ⟨rfl, own⟩ := each part (by simp) first
    obtain ⟨rfl, others⟩ := ih (fun tree member => each tree (by simp [member])) later
    refine ⟨rfl, ?_⟩
    rw [chooserLater]
    exact own.append others

/-- Where the rules are distinct, a derivation tree grows by the choices it stands for only. -/
theorem tells (distinct : grammar.rules.Nodup) (derives : grammar.Derives tree) :
    Tells grammar choose tree := by
  induction derives with
  | @leaf own terminal =>
    intro budget chooser label result
    have grown := sprouts result
    generalize (ofTree grammar choose budget chooser (.leaf label)).chooser = last at grown ⊢
    rw [Grammar.calls]
    cases grown with
    | kept => exact ⟨rfl, .nil⟩
    | expanded nonTerminal =>
      rw [Grammar.not_isTerminal_of_isNonTerminal nonTerminal] at terminal
      cases terminal
  | @node own children member _ ih =>
    intro budget chooser label result
    have inner := Grammar.children_ne_nil member
    have grown := sprouts result
    generalize (ofTree grammar choose budget chooser (.leaf label)).chooser = last at grown ⊢
    rw [Grammar.calls_node_of_ne_nil inner]
    cases grown with
    | kept => exact absurd rfl inner
    | @expanded index after rule _ nonTerminal asked chosen grown =>
      obtain ⟨same, later⟩ := ofForest_tells ih grown
      obtain ⟨_, left⟩ := Grammar.mem_of_rulesOf chosen
      have applied : rule = ⟨own, children.map Tree.label⟩ := by
        rw [← left, ← same]
      rw [← applied, Grammar.idxOf_rulesOf distinct chosen]
      exact ⟨rfl, .cons asked later⟩

end Growth

end SentenceSampler
