import SentenceSampler.Proofs.Grammar
import SentenceSampler.Proofs.Grammar.Parts
import SentenceSampler.Proofs.Text.Bytes

/-!
The classes of symbols and the tables of a grammar. Main statement: rules and a start symbol are refused
for the first rule that is empty, or else for a start symbol without a rule; otherwise they are a grammar
whose tables are told by its rules alone.
-/
namespace SentenceSampler.Grammar

/-- Every symbol comes before the later ones by its bytes; in particular none stands there twice. -/
def Ascending (symbols : List Symbol) : Prop :=
  symbols.Pairwise fun first second => Text.bytes first < Text.bytes second

theorem ascending_of_compare {symbols : List Symbol}
    (ordered : symbols.Pairwise fun first second => compare first second = .lt) :
    Ascending symbols :=
  ordered.imp fun before => Text.bytes_lt (compareOfLessAndEq_eq_lt.mp before)

theorem Ascending.nodup {symbols : List Symbol} (ascending : Ascending symbols) : symbols.Nodup := by
  refine ascending.imp fun {first second} before same => ?_
  rw [same] at before
  exact List.lt_irrefl _ before

/-- A symbol that a grammar has to do with. -/
def Occurs (grammar : Grammar) (symbol : Symbol) : Prop :=
  symbol = grammar.start ∨ ∃ rule ∈ grammar.rules, rule.lhs = symbol ∨ symbol ∈ rule.rhs

/-- The two classes of symbols and the rules for each symbol are what the rules of the grammar say. -/
structure Classified (grammar : Grammar) : Prop where
  nonTerminals (symbol : Symbol) :
    symbol ∈ grammar.nonTerminalList ↔ ∃ rule ∈ grammar.rules, rule.lhs = symbol
  terminals (symbol : Symbol) :
    symbol ∈ grammar.terminalList ↔
      (∃ rule ∈ grammar.rules, symbol ∈ rule.rhs) ∧ ¬ ∃ rule ∈ grammar.rules, rule.lhs = symbol
  isNonTerminal (symbol : Symbol) :
    grammar.isNonTerminal symbol = true ↔ symbol ∈ grammar.nonTerminalList
  isTerminal (symbol : Symbol) : grammar.isTerminal symbol = true ↔ symbol ∈ grammar.terminalList
  alternatives (symbol : Symbol) : symbol ∈ grammar.alternatives ↔ symbol ∈ grammar.nonTerminalList
  nonTerminals_ascending : Ascending grammar.nonTerminalList ∧ grammar.nonTerminalList.Nodup
  terminals_ascending : Ascending grammar.terminalList ∧ grammar.terminalList.Nodup
  disjoint : ∀ symbol ∈ grammar.terminalList, symbol ∉ grammar.nonTerminalList
  one_class (symbol : Symbol) (occurs : grammar.Occurs symbol) :
    symbol ∈ grammar.terminalList ↔ symbol ∉ grammar.nonTerminalList
  rulesFor_nonTerminal : ∀ symbol ∈ grammar.nonTerminalList, ∃ rules, rules ≠ [] ∧
    rules = grammar.rules.filter (fun rule => rule.lhs = symbol) ∧
    grammar.rulesFor symbol = .ok rules
  rulesFor_other : ∀ symbol ∉ grammar.nonTerminalList,
    grammar.rulesFor symbol = .error (.unknownSymbol symbol)
  rulesFor_declines_none (symbol other : Symbol) :
    grammar.rulesFor symbol ≠ .error (.emptyRuleSet other)

theorem mem_nonTerminalList {grammar : Grammar} {symbol : Symbol} :
    symbol ∈ grammar.nonTerminalList ↔ grammar.isNonTerminal symbol = true := by
  rw [nonTerminalList, isNonTerminal, Std.TreeSet.mem_toList, Std.TreeSet.contains_iff_mem]

theorem mem_terminalList {grammar : Grammar} {symbol : Symbol} :
    symbol ∈ grammar.terminalList ↔ grammar.isTerminal symbol = true := by
  rw [terminalList, isTerminal, Std.TreeSet.mem_toList, Std.TreeSet.contains_iff_mem]

theorem Occurs.knows {grammar : Grammar} {symbol : Symbol} (occurs : grammar.Occurs symbol) :
    grammar.Knows symbol := by
  obtain rfl | ⟨rule, member, left | right⟩ := occurs
  · exact grammar.knows_start
  · exact .inr ((grammar.isNonTerminal_iff symbol).mpr ⟨rule, member, left⟩)
  · exact knows_of_mem_rhs member right

theorem rulesFor_of_not_isNonTerminal {grammar : Grammar} {symbol : Symbol}
    (other : ¬ grammar.isNonTerminal symbol = true) :
    grammar.rulesFor symbol = .error (.unknownSymbol symbol) := by
  have none : rulesOf grammar.rules symbol = [] := by
    rw [isNonTerminal_iff] at other
    simpa [rulesOf] using other
  rw [rulesFor_eq, if_pos none]

theorem classified (grammar : Grammar) : grammar.Classified where
  nonTerminals symbol := mem_nonTerminalList.trans (grammar.isNonTerminal_iff symbol)
  terminals symbol := mem_terminalList.trans (grammar.isTerminal_iff symbol)
  isNonTerminal _ := mem_nonTerminalList.symm
  isTerminal _ := mem_terminalList.symm
  alternatives symbol := by
    rw [mem_nonTerminalList, isNonTerminal_eq_contains, Std.TreeMap.contains_iff_mem]
  nonTerminals_ascending := by
    have ascending := ascending_of_compare (Std.TreeSet.ordered_toList (t := grammar.nonTerminals))
    exact ⟨ascending, ascending.nodup⟩
  terminals_ascending := by
    have ascending := ascending_of_compare (Std.TreeSet.ordered_toList (t := grammar.terminals))
    exact ⟨ascending, ascending.nodup⟩
  disjoint symbol terminal := by
    rw [mem_terminalList] at terminal
    simp [mem_nonTerminalList, not_isNonTerminal_of_isTerminal terminal]
  one_class symbol occurs := by
    rw [mem_terminalList, mem_nonTerminalList]
    rcases occurs.knows with terminal | nonTerminal
    · simp [terminal, not_isNonTerminal_of_isTerminal terminal]
    · simp [nonTerminal, not_isTerminal_of_isNonTerminal nonTerminal]
  rulesFor_nonTerminal symbol member := by
    have nonTerminal := mem_nonTerminalList.mp member
    exact ⟨_, rulesOf_ne_nil nonTerminal, rfl, rulesFor_of_isNonTerminal nonTerminal⟩
  rulesFor_other symbol absent :=
    rulesFor_of_not_isNonTerminal fun nonTerminal => absent (mem_nonTerminalList.mpr nonTerminal)
  rulesFor_declines_none symbol other := by
    rw [rulesFor_eq]
    split <;> simp

theorem ofRules_of_empty {rules before later : List Rule} {rule : Rule}
    (split : rules = before ++ rule :: later) (full : ∀ earlier ∈ before, earlier.rhs ≠ [])
    (empty : rule.rhs = []) (start : Symbol) :
    ofRules rules start = .error (.invalidGrammar (.emptyRule rule.lhs)) := by
  have first : rules.find? (fun rule => rule.rhs.isEmpty) = some rule := by
    rw [List.find?_eq_some_iff_append]
    exact ⟨by simp [empty], before, later, split, by simpa using full⟩
  unfold ofRules
  split
  · rename_i other found
    cases first.symm.trans found
    rfl
  · rename_i found
    cases first.symm.trans found

/-- Either no rule is empty, or there is a first one that is. -/
theorem full_or_exists_empty (rules : List Rule) :
    (∀ rule ∈ rules, rule.rhs ≠ []) ∨
      ∃ before rule later, rules = before ++ rule :: later ∧
        (∀ earlier ∈ before, earlier.rhs ≠ []) ∧ rule.rhs = [] := by
  cases found : rules.find? (fun rule => rule.rhs.isEmpty) with
  | none => exact .inl (by simpa [List.find?_eq_none] using found)
  | some rule =>
    obtain ⟨empty, before, later, split, full⟩ := List.find?_eq_some_iff_append.mp found
    exact .inr ⟨before, rule, later, split, by simpa using full, by simpa using empty⟩

/-- Rules and a start symbol are refused for the first rule that is empty, whatever the start symbol;
or else for the start symbol, if no rule has it on its left; otherwise they are a grammar with these rules
and this start symbol, whose tables say what its rules say. -/
theorem ofRules_classified (rules : List Rule) (start : Symbol) :
    (∃ before rule later, rules = before ++ rule :: later ∧
        (∀ earlier ∈ before, earlier.rhs ≠ []) ∧ rule.rhs = [] ∧
        ofRules rules start = .error (.invalidGrammar (.emptyRule rule.lhs))) ∨
      ((∀ rule ∈ rules, rule.rhs ≠ []) ∧ (¬ ∃ rule ∈ rules, rule.lhs = start) ∧
        ofRules rules start = .error (.invalidAxiom start)) ∨
      ((∀ rule ∈ rules, rule.rhs ≠ []) ∧ (∃ rule ∈ rules, rule.lhs = start) ∧
        ∃ grammar, ofRules rules start = .ok grammar ∧ grammar.rules = rules ∧
          grammar.start = start ∧ grammar.Classified) := by
  rcases full_or_exists_empty rules with full | ⟨before, rule, later, split, earlier, empty⟩
  · obtain ⟨unnamed, refused⟩ | ⟨named, grammar, built, sameRules, sameStart⟩ :=
      ofRules_of_full full start
    · exact .inr (.inl ⟨full, unnamed, refused⟩)
    · exact .inr (.inr ⟨full, named, grammar, built, sameRules, sameStart, grammar.classified⟩)
  · exact .inl ⟨before, rule, later, split, earlier, empty,
      ofRules_of_empty split earlier empty start⟩

end SentenceSampler.Grammar
