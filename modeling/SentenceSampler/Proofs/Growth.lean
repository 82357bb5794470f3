import SentenceSampler.Expansion
import SentenceSampler.Proofs.Grammar

/-!
Expansion by recursion on trees, without addresses: the children of a node one after the other, and
the children of an expanded leaf in its place. It is what the runs of an expansion are compared with.
-/
namespace SentenceSampler

/-- How the growth of a part of a tree ended: the part that has grown, or why it has not; the chooser
that is left; and the rules that were applied, in order. -/
structure Growth (σ α : Type) where
  result : Except Expansion.Stop α
  chooser : σ
  applied : List Rule

namespace Growth

variable {σ α β : Type}

def map (change : α → β) (growth : Growth σ α) : Growth σ β :=
  { growth with result := growth.result.map change }

/-- Why nothing has grown, if nothing has. -/
def stop (growth : Growth σ α) : Option Expansion.Stop :=
  match growth.result with
  | .ok _ => none
  | .error stop => some stop

theorem stop_of_ok {part : α} (growth : Growth σ α) (result : growth.result = .ok part) :
    growth.stop = none := by
  rw [stop, result]

theorem stop_of_error {stop : Expansion.Stop} (growth : Growth σ α)
    (result : growth.result = .error stop) : growth.stop = some stop := by
  rw [Growth.stop, result]

/-- The second component decides where the first does not grow. -/
theorem lex_of_le {budget left size less : Nat} (fewer : left ≤ budget)
    (smaller : less < size) : Prod.Lex (· < ·) (· < ·) (left, less) (budget, size) := by
  rcases Nat.lt_or_eq_of_le fewer with strict | rfl
  · exact .left _ _ strict
  · exact .right _ smaller

mutual

/-- The growth of a tree within a budget of expansions. A node with children grows by its children;
a terminal is grown; a non-terminal that is within the budget is given the children that the
chosen rule says, and these grow in turn. -/
def ofTree (grammar : Grammar) (choose : Chooser σ) (budget : Nat) (chooser : σ) :
    Tree → Growth σ Tree
  | .node label (child :: siblings) =>
    (ofForest grammar choose budget chooser (child :: siblings)).map (.node label)
  | .node label [] =>
    if grammar.isTerminal label then ⟨.ok (.leaf label), chooser, []⟩
    else if !grammar.isNonTerminal label then
      ⟨.error (.failed (.unknownSymbol label)), chooser, []⟩
    else if budget = 0 then ⟨.error (.outOfAllowance label), chooser, []⟩
    else
      let rules := Grammar.rulesOf grammar.rules label
      match choose rules.length chooser with
      | (none, chooser) => ⟨.error (.failed (.emptyRuleSet label)), chooser, []⟩
      | (some index, chooser) => match rules[index]? with
        | none => ⟨.error (.failed (.emptyRuleSet label)), chooser, []⟩
        | some rule =>
          let children := ofForest grammar choose (budget - 1) chooser (rule.rhs.map .leaf)
          ⟨children.result.map (.node label), children.chooser, rule :: children.applied⟩
termination_by tree => (budget, 2 * tree.nodeCount)
decreasing_by
  · exact .right _ (by simp only [Tree.nodeCount]; omega)
  · exact .left _ _ (by omega)

/-- Trees grow from left to right, each with what the one before it has left of the budget, until one
does not grow. -/
def ofForest (grammar : Grammar) (choose : Chooser σ) (budget : Nat) (chooser : σ) :
    List Tree → Growth σ (List Tree)
  | [] => ⟨.ok [], chooser, []⟩
  | tree :: trees =>
    let first := ofTree grammar choose budget chooser tree
    match first.result with
    | .error stop => ⟨.error stop, first.chooser, first.applied⟩
    | .ok grown =>
      let later := ofForest grammar choose (budget - first.applied.length) first.chooser trees
      ⟨later.result.map (grown :: ·), later.chooser, first.applied ++ later.applied⟩
termination_by trees => (budget, 2 * Tree.forestCount trees + 1)
decreasing_by
  · exact .right _ (by simp only [Tree.forestCount]; omega)
  · have positive := tree.nodeCount_pos
    exact lex_of_le (by omega) (by simp only [Tree.forestCount]; omega)

end

variable {grammar : Grammar} {choose : Chooser σ} {budget : Nat} {chooser after : σ}
variable {label : Symbol} {tree : Tree} {trees : List Tree}

theorem ofTree_terminal (terminal : grammar.isTerminal label = true) :
    ofTree grammar choose budget chooser (.node label []) = ⟨.ok (.leaf label), chooser, []⟩ := by
  simp [ofTree, terminal]

theorem ofTree_unknown (notTerminal : grammar.isTerminal label = false)
    (notNonTerminal : grammar.isNonTerminal label = false) :
    ofTree grammar choose budget chooser (.node label []) =
      ⟨.error (.failed (.unknownSymbol label)), chooser, []⟩ := by
  simp [ofTree, notTerminal, notNonTerminal]

theorem ofTree_outOfBudget (nonTerminal : grammar.isNonTerminal label = true) :
    ofTree grammar choose 0 chooser (.node label []) =
      ⟨.error (.outOfAllowance label), chooser, []⟩ := by
  have notTerminal := Grammar.not_isTerminal_of_isNonTerminal nonTerminal
  simp [ofTree, notTerminal, nonTerminal]

theorem ofTree_declined {answer : Option Nat} (nonTerminal : grammar.isNonTerminal label = true)
    (allowed : 0 < budget)
    (asked : choose (Grammar.rulesOf grammar.rules label).length chooser = (answer, after))
    (unusable : ∀ index, answer = some index →
      (Grammar.rulesOf grammar.rules label).length ≤ index) :
    ofTree grammar choose budget chooser (.node label []) =
      ⟨.error (.failed (.emptyRuleSet label)), after, []⟩ := by
  have notTerminal := Grammar.not_isTerminal_of_isNonTerminal nonTerminal
  have within : budget ≠ 0 := by omega
  cases answer with
  | none => simp [ofTree, notTerminal, nonTerminal, within, asked]
  | some index =>
    have outside := List.getElem?_eq_none_iff.mpr (unusable index rfl)
    simp [ofTree, notTerminal, nonTerminal, within, asked, outside]

theorem ofTree_expanded {index : Nat} {rule : Rule}
    (nonTerminal : grammar.isNonTerminal label = true) (allowed : 0 < budget)
    (asked : choose (Grammar.rulesOf grammar.rules label).length chooser = (some index, after))
    (chosen : (Grammar.rulesOf grammar.rules label)[index]? = some rule) :
    ofTree grammar choose budget chooser (.node label []) =
      let children := ofForest grammar choose (budget - 1) after (rule.rhs.map .leaf)
      ⟨children.result.map (.node label), children.chooser, rule :: children.applied⟩ := by
  have notTerminal := Grammar.not_isTerminal_of_isNonTerminal nonTerminal
  have within : budget ≠ 0 := by omega
  simp [ofTree, notTerminal, nonTerminal, within, asked, chosen]

theorem ofForest_cons_error {stop : Expansion.Stop}
    (result : (ofTree grammar choose budget chooser tree).result = .error stop) :
    ofForest grammar choose budget chooser (tree :: trees) =
      let first := ofTree grammar choose budget chooser tree
      ⟨.error stop, first.chooser, first.applied⟩ := by
  rw [ofForest]
  simp only [result]

theorem ofForest_cons_ok {grown : Tree}
    (result : (ofTree grammar choose budget chooser tree).result = .ok grown) :
    ofForest grammar choose budget chooser (tree :: trees) =
      let first := ofTree grammar choose budget chooser tree
      let later := ofForest grammar choose (budget - first.applied.length) first.chooser trees
      ⟨later.result.map (grown :: ·), later.chooser, first.applied ++ later.applied⟩ := by
  rw [ofForest]
  simp only [result]

/-- How a leaf has grown, if it has. -/
inductive Sprouts (grammar : Grammar) (choose : Chooser σ) (budget : Nat) (chooser : σ)
    (label : Symbol) : Tree → σ → Prop where
  | kept (terminal : grammar.isTerminal label = true) :
      Sprouts grammar choose budget chooser label (.leaf label) chooser
  | expanded {index : Nat} {after : σ} {rule : Rule} {children : List Tree}
      (nonTerminal : grammar.isNonTerminal label = true)
      (asked : choose (Grammar.rulesOf grammar.rules label).length chooser = (some index, after))
      (chosen : (Grammar.rulesOf grammar.rules label)[index]? = some rule)
      (grown : (ofForest grammar choose (budget - 1) after (rule.rhs.map .leaf)).result =
        .ok children) :
      Sprouts grammar choose budget chooser label (.node label children)
        (ofForest grammar choose (budget - 1) after (rule.rhs.map .leaf)).chooser

theorem sprouts (result : (ofTree grammar choose budget chooser (.leaf label)).result = .ok tree) :
    Sprouts grammar choose budget chooser label tree
      (ofTree grammar choose budget chooser (.leaf label)).chooser := by
  rw [Tree.leaf] at *
  cases terminal : grammar.isTerminal label with
  | true =>
    rw [ofTree_terminal terminal] at *
    obtain rfl := Except.ok.inj result
    exact .kept terminal
  | false =>
    cases nonTerminal : grammar.isNonTerminal label with
    | false =>
      rw [ofTree_unknown terminal nonTerminal] at result
      cases result
    | true =>
      cases budget with
      | zero =>
        rw [ofTree_outOfBudget nonTerminal] at result
        cases result
      | succ budget =>
        have allowed : 0 < budget + 1 := by omega
        cases asked : choose (Grammar.rulesOf grammar.rules label).length chooser with
        | mk answer after =>
          cases picked : answer.bind ((Grammar.rulesOf grammar.rules label)[·]?) with
          | none =>
            have unusable (index : Nat) (same : answer = some index) :
                (Grammar.rulesOf grammar.rules label).length ≤ index := by
              simpa [same] using picked
            rw [ofTree_declined nonTerminal allowed asked unusable] at result
            cases result
          | some rule =>
            obtain ⟨index, rfl, chosen⟩ := Option.bind_eq_some_iff.mp picked
            rw [ofTree_expanded nonTerminal allowed asked chosen] at *
            cases grown : (ofForest grammar choose budget after (rule.rhs.map .leaf)).result with
            | error stop =>
              simp only [Nat.add_sub_cancel, grown] at result
              cases result
            | ok children =>
              simp only [Nat.add_sub_cancel, grown] at result
              obtain rfl := Except.ok.inj result
              exact .expanded nonTerminal asked chosen grown

theorem ofForest_cons_result {grown : List Tree}
    (result : (ofForest grammar choose budget chooser (tree :: trees)).result = .ok grown) :
    let first := ofTree grammar choose budget chooser tree
    let later := ofForest grammar choose (budget - first.applied.length) first.chooser trees
    ∃ part parts, grown = part :: parts ∧ first.result = .ok part ∧ later.result = .ok parts ∧
      (ofForest grammar choose budget chooser (tree :: trees)).chooser = later.chooser := by
  intro first later
  cases firstResult : first.result with
  | error stop =>
    rw [ofForest_cons_error firstResult] at result
    cases result
  | ok part =>
    rw [ofForest_cons_ok firstResult] at result ⊢
    cases laterResult : later.result with
    | error stop =>
      simp only [later, first] at laterResult
      simp only [laterResult] at result
      cases result
    | ok parts =>
      simp only [later, first] at laterResult
      simp only [laterResult] at result
      exact ⟨part, parts, (Except.ok.inj result).symm, rfl, rfl, rfl⟩

end Growth

end SentenceSampler
