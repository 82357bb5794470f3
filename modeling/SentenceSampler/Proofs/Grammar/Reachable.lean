import Mathlib.Data.Fintype.Card
import Mathlib.Data.Set.Finite.Basic
import Mathlib.Logic.Relation
import SentenceSampler.Proofs.Grammar

/-!
Which symbols a grammar leads to. Main statements: where no symbol within reach leads back to itself,
every way down through right-hand sides comes to an end, and otherwise one of them need never end.
-/
namespace SentenceSampler.Grammar

open Relation (ReflTransGen TransGen)

variable {grammar : Grammar} {symbol part : Symbol}

/-- A rule rewrites the one symbol into a sequence with the other in it. -/
def Leads (grammar : Grammar) (symbol part : Symbol) : Prop :=
  ∃ rule ∈ grammar.rules, rule.lhs = symbol ∧ part ∈ rule.rhs

/-- The symbols that stand on the way down from the start symbol. -/
def Reachable (grammar : Grammar) : Symbol → Prop :=
  ReflTransGen grammar.Leads grammar.start

/-- A non-terminal within reach leads back to itself, in one step or more. -/
def Recursive (grammar : Grammar) : Prop :=
  ∃ symbol, grammar.isNonTerminal symbol = true ∧ grammar.Reachable symbol ∧
    TransGen grammar.Leads symbol symbol

/-- A symbol from which there is a way to one that leads back to itself. -/
def Endless (grammar : Grammar) (symbol : Symbol) : Prop :=
  ∃ part, ReflTransGen grammar.Leads symbol part ∧ TransGen grammar.Leads part part

theorem Leads.isNonTerminal (leads : grammar.Leads symbol part) :
    grammar.isNonTerminal symbol = true := by
  obtain ⟨rule, member, same, _⟩ := leads
  exact (grammar.isNonTerminal_iff symbol).mpr ⟨rule, member, same⟩

/-- The start symbol apart, only right-hand sides are within reach. -/
theorem finite_reachable (grammar : Grammar) : {symbol | grammar.Reachable symbol}.Finite := by
  refine (List.finite_toSet (grammar.start :: grammar.rules.flatMap Rule.rhs)).subset ?_
  intro symbol reachable
  rcases Relation.ReflTransGen.cases_tail reachable with rfl | ⟨_, _, rule, member, _, part⟩
  · exact List.mem_cons_self
  · exact List.mem_cons_of_mem _ (List.mem_flatMap.mpr ⟨rule, member, part⟩)

private theorem wellFounded_leads (acyclic : ¬ grammar.Recursive) :
    WellFounded fun part symbol : {symbol // grammar.Reachable symbol} =>
      grammar.Leads symbol.val part.val := by
  let leads (symbol part : {symbol // grammar.Reachable symbol}) : Prop :=
    grammar.Leads symbol.val part.val
  have finite : Finite {symbol // grammar.Reachable symbol} := grammar.finite_reachable.to_subtype
  have irreflexive : Std.Irrefl (TransGen (Function.swap leads)) := by
    refine ⟨fun symbol cycle => acyclic ?_⟩
    have around : TransGen grammar.Leads symbol.val symbol.val :=
      (Relation.transGen_swap.mp cycle).lift Subtype.val fun _ _ step => step
    obtain ⟨_, first, _⟩ := TransGen.head'_iff.mp around
    exact ⟨symbol.val, first.isNonTerminal, symbol.property, around⟩
  have closed : WellFounded (TransGen (Function.swap leads)) :=
    Finite.wellFounded_of_trans_of_irrefl _
  have within : Subrelation (Function.swap leads) (TransGen (Function.swap leads)) := .single
  exact within.wf closed

/-- Where no symbol within reach leads back to itself, what holds of a symbol as soon as it holds of all
that the symbol leads to holds of the start symbol. -/
theorem start_induction (acyclic : ¬ grammar.Recursive) {holds : Symbol → Prop}
    (step : ∀ symbol, (∀ part, grammar.Leads symbol part → holds part) → holds symbol) :
    holds grammar.start := by
  have each (symbol : {symbol // grammar.Reachable symbol}) : holds symbol.val := by
    induction symbol using (wellFounded_leads acyclic).induction with
    | h symbol ih =>
      refine step symbol.val fun part leads => ?_
      exact ih ⟨part, ReflTransGen.tail symbol.property leads⟩ leads
  exact each ⟨grammar.start, .refl⟩

theorem Recursive.endless (recursive : grammar.Recursive) : grammar.Endless grammar.start := by
  obtain ⟨symbol, _, reachable, cycle⟩ := recursive
  exact ⟨symbol, reachable, cycle⟩

theorem Endless.leads (endless : grammar.Endless symbol) :
    ∃ part, grammar.Leads symbol part ∧ grammar.Endless part := by
  obtain ⟨last, way, cycle⟩ := endless
  rcases ReflTransGen.cases_head way with rfl | ⟨part, first, rest⟩
  · obtain ⟨part, first, back⟩ := TransGen.head'_iff.mp cycle
    exact ⟨part, first, symbol, back, cycle⟩
  · exact ⟨part, first, last, rest, cycle⟩

end SentenceSampler.Grammar
