import SentenceSampler.Failure
import SentenceSampler.Grammar.Index

/-!
Context-free grammars: rules in order, a start symbol, and every symbol classified. A symbol is a
non-terminal if it is the left-hand side of a rule, and a terminal if it stands on a right-hand side
without being one.
-/
namespace SentenceSampler

/-- The rules and the start symbol determine the other parts. -/
structure Grammar where
  rules : List Rule
  start : Symbol
  alternatives : Std.TreeMap Symbol (List Rule)
  nonTerminals : Std.TreeSet Symbol
  terminals : Std.TreeSet Symbol
  alternatives_eq : alternatives = Grammar.index rules
  nonTerminals_eq : nonTerminals = Grammar.expandable rules
  terminals_eq : terminals = Grammar.unexpandable rules (Grammar.expandable rules)
  rhs_ne_nil : ∀ rule ∈ rules, rule.rhs ≠ []
  start_mem : start ∈ Grammar.expandable rules

namespace Grammar

/-- Every right-hand side must hold a symbol, and the start symbol must have a rule. -/
def ofRules (rules : List Rule) (start : Symbol) : Except Failure Grammar :=
  match empty : rules.find? fun rule => rule.rhs.isEmpty with
  | some rule => .error (.invalidGrammar (.emptyRule rule.lhs))
  | none =>
    let nonTerminals := expandable rules
    if valid : start ∈ nonTerminals then
      .ok {
        rules, start, nonTerminals
        alternatives := index rules
        terminals := unexpandable rules nonTerminals
        alternatives_eq := rfl
        nonTerminals_eq := rfl
        terminals_eq := rfl
        rhs_ne_nil := by simpa [List.find?_eq_none] using empty
        start_mem := valid }
    else .error (.invalidAxiom start)

def isTerminal (grammar : Grammar) (symbol : Symbol) : Bool := grammar.terminals.contains symbol

def isNonTerminal (grammar : Grammar) (symbol : Symbol) : Bool :=
  grammar.nonTerminals.contains symbol

/-- The terminals in the order of their code points. -/
def terminalList (grammar : Grammar) : List Symbol := grammar.terminals.toList

/-- The non-terminals in the order of their code points. -/
def nonTerminalList (grammar : Grammar) : List Symbol := grammar.nonTerminals.toList

/-- The rules that rewrite a symbol, in order. -/
def rulesFor (grammar : Grammar) (symbol : Symbol) : Except Failure (List Rule) :=
  match grammar.alternatives[symbol]? with
  | none => .error (.unknownSymbol symbol)
  | some [] => .error (.emptyRuleSet symbol)
  | some rules => .ok rules

/-- Terminals, non-terminals, rules and start symbol on one line. -/
def shown (grammar : Grammar) : String :=
  "CFG(" ++ Text.quotedSet grammar.terminalList ++ ", " ++ Text.quotedSet grammar.nonTerminalList ++
    ", [" ++ ", ".intercalate (grammar.rules.map Rule.shown) ++ "], " ++ grammar.start ++ ")"

theorem isNonTerminal_iff (grammar : Grammar) (symbol : Symbol) :
    grammar.isNonTerminal symbol = true ↔ ∃ rule ∈ grammar.rules, rule.lhs = symbol := by
  rw [isNonTerminal, grammar.nonTerminals_eq, Std.TreeSet.contains_iff_mem, mem_expandable]

/-- The non-terminals are the symbols that have alternatives. -/
theorem isNonTerminal_eq_contains (grammar : Grammar) (symbol : Symbol) :
    grammar.isNonTerminal symbol = grammar.alternatives.contains symbol := by
  rw [Bool.eq_iff_iff, isNonTerminal, grammar.nonTerminals_eq, grammar.alternatives_eq,
    Std.TreeSet.contains_iff_mem, Std.TreeMap.contains_iff_mem, mem_expandable_iff_mem_index]

theorem isTerminal_iff (grammar : Grammar) (symbol : Symbol) :
    grammar.isTerminal symbol = true ↔
      (∃ rule ∈ grammar.rules, symbol ∈ rule.rhs) ∧
        ¬ ∃ rule ∈ grammar.rules, rule.lhs = symbol := by
  rw [isTerminal, grammar.terminals_eq, Std.TreeSet.contains_iff_mem, mem_unexpandable]

theorem rulesFor_eq (grammar : Grammar) (symbol : Symbol) :
    grammar.rulesFor symbol =
      if rulesOf grammar.rules symbol = [] then .error (.unknownSymbol symbol)
      else .ok (rulesOf grammar.rules symbol) := by
  rw [rulesFor, grammar.alternatives_eq, index_getElem?]
  cases rulesOf grammar.rules symbol with
  | nil => simp
  | cons rule later => simp

/-- A grammar is the one of its rules and its start symbol. -/
theorem ofRules_rules_start (grammar : Grammar) :
    ofRules grammar.rules grammar.start = .ok grammar := by
  have full : grammar.rules.find? (fun rule => rule.rhs.isEmpty) = none := by
    simpa [List.find?_eq_none] using grammar.rhs_ne_nil
  unfold ofRules
  split
  · rename_i empty
    rw [full] at empty
    cases empty
  · obtain ⟨rules, start, alternatives, nonTerminals, terminals, sameIndex, sameSet, sameTerminals, _,
      member⟩ := grammar
    subst sameIndex sameSet sameTerminals
    simp [member]

end Grammar

end SentenceSampler
