import SentenceSampler.Grammar.RuleLines

/-!
Grammars put together from rules and a start symbol. Main statement: the rules of a grammar together with
its start symbol as the declared one give it back, and another start symbol wherever that has a rule.
-/
namespace SentenceSampler.Grammar

variable {rules : List Rule} {start : Symbol} {grammar : Grammar}

/-- The three ways of putting rules and a start symbol together. -/
theorem ofRules_cases (rules : List Rule) (start : Symbol) :
    (∃ rule, rules.find? (fun rule => rule.rhs.isEmpty) = some rule ∧
      ofRules rules start = .error (.invalidGrammar (.emptyRule rule.lhs))) ∨
    ((¬ ∃ rule ∈ rules, rule.lhs = start) ∧ ofRules rules start = .error (.invalidAxiom start)) ∨
    ((∃ rule ∈ rules, rule.lhs = start) ∧
      ∃ grammar, ofRules rules start = .ok grammar ∧ grammar.rules = rules ∧ grammar.start = start) := by
  unfold ofRules
  split
  · rename_i rule empty
    exact .inl ⟨rule, empty, rfl⟩
  · by_cases valid : start ∈ expandable rules
    · exact .inr (.inr ⟨mem_expandable.mp valid, _, dif_pos valid, rfl, rfl⟩)
    · exact .inr (.inl ⟨fun named => valid (mem_expandable.mpr named), dif_neg valid⟩)

theorem rules_of_ofRules (built : ofRules rules start = .ok grammar) : grammar.rules = rules := by
  obtain ⟨_, _, failed⟩ | ⟨_, failed⟩ | ⟨_, other, done, same, _⟩ := ofRules_cases rules start
  · cases failed.symm.trans built
  · cases failed.symm.trans built
  · cases done.symm.trans built
    exact same

/-- Where no rule is empty, the start symbol alone decides. -/
theorem ofRules_of_full (full : ∀ rule ∈ rules, rule.rhs ≠ []) (start : Symbol) :
    ((¬ ∃ rule ∈ rules, rule.lhs = start) ∧ ofRules rules start = .error (.invalidAxiom start)) ∨
    ((∃ rule ∈ rules, rule.lhs = start) ∧
      ∃ grammar, ofRules rules start = .ok grammar ∧ grammar.rules = rules ∧ grammar.start = start) := by
  obtain ⟨rule, empty, _⟩ | built := ofRules_cases rules start
  · have nothing : rule.rhs = [] := by simpa using List.find?_some empty
    exact absurd nothing (full rule (List.mem_of_find?_eq_some empty))
  · exact built

theorem exists_rule_start (grammar : Grammar) : ∃ rule ∈ grammar.rules, rule.lhs = grammar.start :=
  mem_expandable.mp grammar.start_mem

/-- A grammar is read back: as it is, and with the start symbol that is asked for in place of its own,
if that has a rule. -/
structure ReadBack (read : Option Symbol → Except Failure Grammar) (grammar : Grammar) : Prop where
  unasked : read none = .ok grammar
  asked : ∀ symbol, (∃ rule ∈ grammar.rules, rule.lhs = symbol) →
    ∃ other, read (some symbol) = .ok other ∧ other.rules = grammar.rules ∧ other.start = symbol
  refused : ∀ symbol, (¬ ∃ rule ∈ grammar.rules, rule.lhs = symbol) →
    read (some symbol) = .error (.invalidAxiom symbol)

theorem readBack_of_parts {read : Option Symbol → Except Failure Grammar}
    (parts : ∀ asked, read asked = ofParts grammar.rules asked (some grammar.start)) :
    grammar.ReadBack read := by
  have wanted : ∀ symbol, read (some symbol) = ofRules grammar.rules symbol := fun symbol => parts symbol
  refine ⟨(parts none).trans grammar.ofRules_rules_start, fun symbol named => ?_, fun symbol unnamed => ?_⟩
  · obtain ⟨unnamed, _⟩ | ⟨_, built⟩ := ofRules_of_full grammar.rhs_ne_nil symbol
    · exact absurd named unnamed
    · rw [wanted symbol]
      exact built
  · obtain ⟨_, refused⟩ | ⟨named, _⟩ := ofRules_of_full grammar.rhs_ne_nil symbol
    · exact (wanted symbol).trans refused
    · exact absurd named unnamed

theorem rules_of_ofParts {asked declared : Option Symbol}
    (built : ofParts rules asked declared = .ok grammar) : grammar.rules = rules := by
  unfold ofParts at built
  cases chosen : chooseStart asked declared rules with
  | error failure =>
    rw [chosen] at built
    cases built
  | ok start =>
    rw [chosen] at built
    exact rules_of_ofRules built

end SentenceSampler.Grammar
