import SentenceSampler.Proofs.Grammar
import SentenceSampler.Proofs.Tree.Context

/-!
Derivation trees of a grammar. Main statements: a derivation tree may be grown at any leaf, and it is
complete exactly if its yield holds terminals only.
-/
namespace SentenceSampler

/-- Every node that has children was rewritten into them by a rule, and every leaf carries a symbol
at which the derivation may end. -/
inductive Derivation (grammar : Grammar) (final : Symbol → Prop) : Tree → Prop where
  | leaf {label : Symbol} (allowed : final label) : Derivation grammar final (.node label [])
  | node {label : Symbol} {children : List Tree}
      (rule : ⟨label, children.map Tree.label⟩ ∈ grammar.rules)
      (grown : ∀ child ∈ children, Derivation grammar final child) :
      Derivation grammar final (.node label children)

/-- A derivation that ends at terminals only. -/
def Grammar.Derives (grammar : Grammar) (tree : Tree) : Prop :=
  Derivation grammar (fun symbol => grammar.isTerminal symbol = true) tree

/-- A derivation that may be broken off at any symbol. -/
def Grammar.Begins (grammar : Grammar) (tree : Tree) : Prop :=
  Derivation grammar (fun _ => True) tree

theorem Grammar.children_ne_nil {grammar : Grammar} {label : Symbol} {children : List Tree}
    (rule : ⟨label, children.map Tree.label⟩ ∈ grammar.rules) : children ≠ [] := by
  intro empty
  exact grammar.rhs_ne_nil _ rule (by simp [empty])

namespace Derivation

variable {grammar : Grammar} {final other : Symbol → Prop} {tree filling : Tree}

theorem inner {label : Symbol} {children : List Tree}
    (derivation : Derivation grammar final (.node label children)) (inner : children ≠ []) :
    ⟨label, children.map Tree.label⟩ ∈ grammar.rules ∧
      ∀ child ∈ children, Derivation grammar final child := by
  cases derivation with
  | leaf => exact absurd rfl inner
  | node rule grown => exact ⟨rule, grown⟩

/-- The leaves alone decide where a derivation ends. -/
theorem refine (derivation : Derivation grammar final tree)
    (allowed : ∀ token ∈ tree.tokens, other token) : Derivation grammar other tree := by
  induction derivation with
  | leaf => exact .leaf (allowed _ (by simp [Tree.tokens]))
  | @node label children rule grown ih =>
    refine .node rule fun child member => ih child member fun token found => allowed token ?_
    rw [Tree.tokens_node_of_ne_nil (List.ne_nil_of_mem member), Tree.mem_forestTokens]
    exact ⟨child, member, found⟩

theorem fresh {rule : Rule} (member : rule ∈ grammar.rules) :
    Derivation grammar (fun _ => True) (.node rule.lhs (rule.rhs.map .leaf)) := by
  refine .node (by simpa [Function.comp_def, Tree.leaf, Tree.label] using member) ?_
  intro child found
  obtain ⟨symbol, _, rfl⟩ := List.mem_map.mp found
  exact .leaf trivial

theorem of_plug (context : Context) (whole : Derivation grammar final (context.plug tree)) :
    Derivation grammar final tree := by
  induction context generalizing tree with
  | root => exact whole
  | child outer label before after ih =>
    have around := ih whole
    exact (around.inner (by simp)).2 tree (by simp)

/-- What fills a hole of a derivation may be exchanged for a derivation from the same symbol. -/
theorem replug {context : Context} (whole : Derivation grammar final (context.plug tree))
    (same : filling.label = tree.label) (derivation : Derivation grammar final filling) :
    Derivation grammar final (context.plug filling) := by
  induction context generalizing tree filling with
  | root => exact derivation
  | child outer label before after ih =>
    obtain ⟨rule, grown⟩ := (of_plug outer whole).inner (by simp)
    have exchanged : Derivation grammar final (.node label (before ++ filling :: after)) := by
      refine .node (by simpa [same] using rule) ?_
      intro child member
      rcases List.mem_append.mp member with left | right
      · exact grown child (by simp [left])
      · rcases List.mem_cons.mp right with rfl | right
        · exact derivation
        · exact grown child (by simp [right])
    exact ih whole rfl exchanged

end Derivation

theorem Grammar.Begins.expandAt {grammar : Grammar} {tree : Tree} {address : Address} {rule : Rule}
    (begins : grammar.Begins tree) (found : tree.nodeAt? address = some (.leaf rule.lhs))
    (member : rule ∈ grammar.rules) :
    grammar.Begins (tree.expandAt (rule.rhs.map .leaf) address) := by
  obtain ⟨context, rfl, rfl⟩ := Context.exists_of_nodeAt? found
  rw [Tree.leaf, context.expandAt_plug]
  exact begins.replug rfl (.fresh member)

/-- Two names joined to each other. -/
def Tree.pair : Tree := .node "N" [.node "N" [.leaf "x"], .leaf "&", .node "N" [.leaf "x"]]

theorem Grammar.names_derives_pair : Grammar.names.Derives .pair := by
  have x : Grammar.names.Derives (.leaf "x") := .leaf (by decide)
  have joint : Grammar.names.Derives (.leaf "&") := .leaf (by decide)
  have name : Grammar.names.Derives (.node "N" [.leaf "x"]) := .node (by decide) (by simpa [Derives] using x)
  exact .node (by decide) (by simpa [Derives] using ⟨name, joint, name⟩)

end SentenceSampler
