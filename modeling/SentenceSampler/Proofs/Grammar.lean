import Mathlib.Data.List.Nodup
import SentenceSampler.Grammar

/-!
What the tables of a grammar say about its rules. Main statements: the rules that may rewrite a
non-terminal are found in order and are never none, and where the rules are distinct each has one place
among them.
-/
namespace SentenceSampler.Grammar

theorem not_isNonTerminal_of_isTerminal {grammar : Grammar} {symbol : Symbol}
    (terminal : grammar.isTerminal symbol = true) : grammar.isNonTerminal symbol = false := by
  have unexpandable := ((grammar.isTerminal_iff symbol).mp terminal).2
  rw [← grammar.isNonTerminal_iff] at unexpandable
  simpa using unexpandable

theorem not_isTerminal_of_isNonTerminal {grammar : Grammar} {symbol : Symbol}
    (nonTerminal : grammar.isNonTerminal symbol = true) : grammar.isTerminal symbol = false := by
  apply Bool.eq_false_iff.mpr
  intro terminal
  rw [not_isNonTerminal_of_isTerminal terminal] at nonTerminal
  cases nonTerminal

theorem start_isNonTerminal (grammar : Grammar) : grammar.isNonTerminal grammar.start = true :=
  (grammar.isNonTerminal_iff grammar.start).mpr (mem_expandable.mp grammar.start_mem)

/-- A symbol that is in one of the two classes. -/
def Knows (grammar : Grammar) (symbol : Symbol) : Prop :=
  grammar.isTerminal symbol = true ∨ grammar.isNonTerminal symbol = true

theorem knows_start (grammar : Grammar) : grammar.Knows grammar.start :=
  .inr grammar.start_isNonTerminal

theorem knows_of_mem_rhs {grammar : Grammar} {rule : Rule} {symbol : Symbol}
    (member : rule ∈ grammar.rules) (part : symbol ∈ rule.rhs) : grammar.Knows symbol := by
  rw [Knows, isTerminal_iff, isNonTerminal_iff]
  by_cases expandable : ∃ rule ∈ grammar.rules, rule.lhs = symbol
  · exact .inr expandable
  · exact .inl ⟨⟨rule, member, part⟩, expandable⟩

theorem rulesOf_ne_nil {grammar : Grammar} {symbol : Symbol}
    (nonTerminal : grammar.isNonTerminal symbol = true) : rulesOf grammar.rules symbol ≠ [] := by
  obtain ⟨rule, member, same⟩ := (grammar.isNonTerminal_iff symbol).mp nonTerminal
  apply List.ne_nil_of_mem (a := rule)
  simp [rulesOf, member, same]

theorem length_rulesOf_ne_zero {grammar : Grammar} {symbol : Symbol}
    (nonTerminal : grammar.isNonTerminal symbol = true) : (rulesOf grammar.rules symbol).length ≠ 0 :=
  mt List.length_eq_zero_iff.mp (rulesOf_ne_nil nonTerminal)

theorem rulesFor_of_isNonTerminal {grammar : Grammar} {symbol : Symbol}
    (nonTerminal : grammar.isNonTerminal symbol = true) :
    grammar.rulesFor symbol = .ok (rulesOf grammar.rules symbol) := by
  rw [rulesFor_eq, if_neg (rulesOf_ne_nil nonTerminal)]

theorem mem_of_rulesOf {grammar : Grammar} {symbol : Symbol} {index : Nat} {rule : Rule}
    (chosen : (rulesOf grammar.rules symbol)[index]? = some rule) :
    rule ∈ grammar.rules ∧ rule.lhs = symbol := by
  simpa [rulesOf] using List.mem_of_getElem? chosen

theorem mem_rulesOf {grammar : Grammar} {rule : Rule} (member : rule ∈ grammar.rules) :
    rule ∈ rulesOf grammar.rules rule.lhs := by
  simp [rulesOf, member]

theorem idxOf_rulesOf {grammar : Grammar} {symbol : Symbol} {index : Nat} {rule : Rule}
    (distinct : grammar.rules.Nodup) (chosen : (rulesOf grammar.rules symbol)[index]? = some rule) :
    (rulesOf grammar.rules symbol).idxOf rule = index := by
  obtain ⟨within, rfl⟩ := List.getElem?_eq_some_iff.mp chosen
  have among : (rulesOf grammar.rules symbol).Nodup := distinct.filter _
  exact among.idxOf_getElem index within

theorem toOption_ofRules_isSome {rules : List Rule} {start : Symbol}
    (rhs_ne_nil : ∀ rule ∈ rules, rule.rhs ≠ []) (start_mem : ∃ rule ∈ rules, rule.lhs = start) :
    (ofRules rules start).toOption.isSome := by
  have full : rules.find? (fun rule => rule.rhs.isEmpty) = none := by
    simpa [List.find?_eq_none] using rhs_ne_nil
  have member := mem_expandable.mpr start_mem
  unfold ofRules
  split
  · rename_i empty
    rw [full] at empty
    cases empty
  · simp [member, Except.toOption]

/-- Names that may be joined to each other: the smallest grammar with a choice and a recursion. -/
def names : Grammar :=
  (ofRules [⟨"N", ["x"]⟩, ⟨"N", ["N", "&", "N"]⟩] "N").toOption.get
    (toOption_ofRules_isSome (by decide) (by decide))

end SentenceSampler.Grammar
