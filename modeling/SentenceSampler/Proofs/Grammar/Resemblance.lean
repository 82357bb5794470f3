import SentenceSampler.Proofs.Grammar.Reachable

/-!
Grammars that agree on what is within reach of their start symbol. Main statements: they classify the
symbols within reach in the same way, and they agree wherever the rules of one were made from those of the
other by changes that no symbol within reach takes notice of.
-/
namespace SentenceSampler.Grammar

open Relation (EqvGen ReflTransGen)

variable {grammar other : Grammar} {symbol : Symbol}

theorem isNonTerminal_iff_rulesOf_ne_nil :
    grammar.isNonTerminal symbol = true ↔ rulesOf grammar.rules symbol ≠ [] := by
  rw [isNonTerminal_iff, rulesOf, Ne, List.filter_eq_nil_iff]
  simp

theorem Reachable.knows (reachable : grammar.Reachable symbol) : grammar.Knows symbol := by
  rcases ReflTransGen.cases_tail reachable with rfl | ⟨_, _, rule, member, _, part⟩
  · exact grammar.knows_start
  · exact knows_of_mem_rhs member part

/-- The one class of a known symbol tells the other. -/
theorem Knows.isTerminal_eq (known : grammar.Knows symbol) :
    grammar.isTerminal symbol = !grammar.isNonTerminal symbol := by
  rcases known with terminal | nonTerminal
  · rw [terminal, not_isNonTerminal_of_isTerminal terminal]
    rfl
  · rw [nonTerminal, not_isTerminal_of_isNonTerminal nonTerminal]
    rfl

/-- The other grammar begins with the same symbol and rewrites every symbol within reach by the same rules,
in the same order. What it does with other symbols is left open. -/
structure Resembles (other grammar : Grammar) : Prop where
  start : other.start = grammar.start
  rulesOf (symbol : Symbol) (reachable : grammar.Reachable symbol) :
    rulesOf other.rules symbol = rulesOf grammar.rules symbol

namespace Resembles

/-- What is within reach in the one grammar is so in the other. -/
theorem reachable (resembles : other.Resembles grammar) (reachable : grammar.Reachable symbol) :
    other.Reachable symbol := by
  induction reachable with
  | refl =>
    rw [Reachable, resembles.start]
  | @tail symbol part earlier leads ih =>
    obtain ⟨rule, member, rfl, among⟩ := leads
    have found : rule ∈ Grammar.rulesOf other.rules rule.lhs :=
      resembles.rulesOf _ earlier ▸ mem_rulesOf member
    exact ih.tail ⟨rule, (List.mem_filter.mp found).1, rfl, among⟩

theorem isNonTerminal (resembles : other.Resembles grammar) (reachable : grammar.Reachable symbol) :
    other.isNonTerminal symbol = grammar.isNonTerminal symbol := by
  rw [Bool.eq_iff_iff, isNonTerminal_iff_rulesOf_ne_nil, isNonTerminal_iff_rulesOf_ne_nil,
    resembles.rulesOf symbol reachable]

/-- Although it is all rules that make a symbol a terminal, those within reach are the same ones. -/
theorem isTerminal (resembles : other.Resembles grammar) (reachable : grammar.Reachable symbol) :
    other.isTerminal symbol = grammar.isTerminal symbol := by
  rw [(resembles.reachable reachable).knows.isTerminal_eq, reachable.knows.isTerminal_eq,
    resembles.isNonTerminal reachable]

end Resembles

/-- One change to a list of rules that the kept symbols take no notice of: neighbours that rewrite
different symbols change places, or a rule for a symbol that is not kept is put in somewhere. -/
inductive Edit (kept : Symbol → Prop) : List Rule → List Rule → Prop where
  | swap (before later : List Rule) (first second : Rule) (different : first.lhs ≠ second.lhs) :
      Edit kept (before ++ first :: second :: later) (before ++ second :: first :: later)
  | add (before later : List Rule) (rule : Rule) (dropped : ¬ kept rule.lhs) :
      Edit kept (before ++ later) (before ++ rule :: later)

theorem Edit.rulesOf_eq {kept : Symbol → Prop} {rules others : List Rule} (edit : Edit kept rules others)
    (holds : kept symbol) : rulesOf rules symbol = rulesOf others symbol := by
  cases edit with
  | swap before later first second different =>
    have once : first.lhs ≠ symbol ∨ second.lhs ≠ symbol := by
      by_contra both
      simp only [not_or, not_not] at both
      exact different (both.1.trans both.2.symm)
    rcases once with skipped | skipped <;>
      simp [rulesOf, List.filter_cons, skipped]
  | add before later rule dropped =>
    have skipped : rule.lhs ≠ symbol := fun same => dropped (same ▸ holds)
    simp [rulesOf, skipped]

/-- Any number of such changes, forth and back, leaves the rules for the kept symbols as they are. -/
theorem rulesOf_eq_of_edits {kept : Symbol → Prop} {rules others : List Rule}
    (edits : EqvGen (Edit kept) rules others) (holds : kept symbol) :
    rulesOf rules symbol = rulesOf others symbol := by
  induction edits with
  | rel rules others edit => exact edit.rulesOf_eq holds
  | refl rules => rfl
  | symm rules others _ ih => exact ih.symm
  | trans rules between others _ _ first second => exact first.trans second

theorem resembles_of_edits (start : other.start = grammar.start)
    (edits : EqvGen (Edit grammar.Reachable) grammar.rules other.rules) : other.Resembles grammar where
  start := start
  rulesOf _ reachable := (rulesOf_eq_of_edits edits reachable).symm

end SentenceSampler.Grammar
