import SentenceSampler.Proofs.Expansion.Extension
import SentenceSampler.Proofs.Generator.Grown

/-!
Symbols that are neither terminals nor non-terminals. Main statements: expansions bring none into a tree
and take none away, and where a run comes upon one, the derivations to its left are complete.
-/
namespace SentenceSampler

open Expansion

variable {grammar : Grammar}

namespace Grammar

/-- The first symbol that is neither a terminal nor a non-terminal. -/
def firstUnknown? (grammar : Grammar) (symbols : List Symbol) : Option Symbol :=
  symbols.find? fun symbol => !grammar.isTerminal symbol && !grammar.isNonTerminal symbol

theorem firstUnknown?_eq_none_iff {symbols : List Symbol} :
    grammar.firstUnknown? symbols = none ↔ ∀ symbol ∈ symbols, grammar.Knows symbol := by
  simp only [firstUnknown?, List.find?_eq_none, Knows]
  refine forall₂_congr fun symbol _ => ?_
  cases grammar.isTerminal symbol <;> simp

theorem firstUnknown?_append (first second : List Symbol) :
    grammar.firstUnknown? (first ++ second) =
      (grammar.firstUnknown? first).or (grammar.firstUnknown? second) :=
  List.find?_append

theorem firstUnknown?_eq_some {done later : List Symbol} {symbol : Symbol}
    (known : ∀ token ∈ done, grammar.Knows token) (unknown : ¬ grammar.Knows symbol) :
    grammar.firstUnknown? (done ++ symbol :: later) = some symbol := by
  rw [firstUnknown?_append, firstUnknown?_eq_none_iff.mpr known, Option.none_or, firstUnknown?,
    List.find?_cons_of_pos]
  simpa [Knows] using unknown

theorem Begins.eq_leaf {tree : Tree} (begins : grammar.Begins tree)
    (unknown : ¬ grammar.Knows tree.label) : tree = .leaf tree.label := by
  cases begins with
  | leaf => rfl
  | node rule => exact absurd (.inr ((grammar.isNonTerminal_iff _).mpr ⟨_, rule, rfl⟩)) unknown

theorem Begins.firstUnknown?_tokens {tree : Tree} (begins : grammar.Begins tree) :
    grammar.firstUnknown? tree.tokens = grammar.firstUnknown? [tree.label] := by
  by_cases known : grammar.Knows tree.label
  · rw [firstUnknown?_eq_none_iff.mpr (knows_of_begins begins known),
      firstUnknown?_eq_none_iff.mpr (by simpa using known)]
  · rw [begins.eq_leaf known]
    rfl

/-- Only a derivation that is nothing but that symbol has an unknown symbol among its leaves. -/
theorem Begins.eq_leaf_of_mem {tree : Tree} {token : Symbol} (begins : grammar.Begins tree)
    (found : token ∈ tree.tokens) (unknown : ¬ grammar.Knows token) : tree = .leaf token := by
  have root : ¬ grammar.Knows tree.label := fun known =>
    unknown (knows_of_begins begins known token found)
  have leaf := begins.eq_leaf root
  generalize tree.label = label at leaf
  subst leaf
  rw [Tree.leaf, Tree.tokens, List.mem_singleton] at found
  rw [found]

/-- Derivations in place of the leaves bring no unknown symbols and take none away. -/
theorem Extends.firstUnknown?_yield {tree grown : Tree} (extended : grammar.Extends tree grown) :
    grammar.firstUnknown? grown.yield = grammar.firstUnknown? tree.yield := by
  obtain ⟨parts, grafted, begins⟩ := extended
  obtain ⟨labels, tokens⟩ := grafted.tokens_eq
  rw [Tree.yield_eq_tokens, Tree.yield_eq_tokens, labels, tokens]
  clear grafted labels tokens
  induction parts with
  | nil => rfl
  | cons part parts ih =>
    have first := (begins part List.mem_cons_self).firstUnknown?_tokens
    have others := ih fun other member => begins other (List.mem_cons_of_mem _ member)
    rw [Tree.forestTokens, firstUnknown?_append, first, others, ← firstUnknown?_append]
    rfl

/-- Among derivations whose leaves up to an unknown symbol are terminals, all those before the one that is
the symbol are complete. -/
theorem exists_split_of_tokens {parts : List Tree} {done later : List Symbol} {symbol : Symbol}
    (begins : ∀ part ∈ parts, grammar.Begins part)
    (tokens : Tree.forestTokens parts = done ++ symbol :: later)
    (terminal : ∀ token ∈ done, grammar.isTerminal token = true) (unknown : ¬ grammar.Knows symbol) :
    ∃ before after, parts = before ++ .leaf symbol :: after ∧
      ∀ part ∈ before, grammar.Derives part := by
  induction parts generalizing done with
  | nil => simp [Tree.forestTokens] at tokens
  | cons part parts ih =>
    have own := begins part List.mem_cons_self
    rcases Context.split_around tokens with ⟨rest, split, -⟩ | ⟨rest, rfl, split⟩
    · obtain rfl := own.eq_leaf_of_mem (by simp [split]) unknown
      exact ⟨[], parts, rfl, by simp⟩
    · have complete : grammar.Derives part :=
        own.refine fun token found => terminal token (List.mem_append_left _ found)
      obtain ⟨before, after, rfl, derives⟩ := ih
        (fun other member => begins other (List.mem_cons_of_mem _ member)) split
        (fun token found => terminal token (List.mem_append_right _ found))
      exact ⟨part :: before, after, rfl, by simpa [complete] using derives⟩

end Grammar

/-- The next leaf of a run that is at an unknown symbol is the first unknown one. -/
theorem Expansion.Frontier.firstUnknown?_yield {σ ω : Type} {state : State σ ω}
    {done later : List (Address × String)} {address : Address} {symbol : Symbol}
    (frontier : Frontier grammar state done ((address, symbol) :: later))
    (unknown : ¬ grammar.Knows symbol) : grammar.firstUnknown? state.tree.yield = some symbol := by
  have known : ∀ token ∈ done.map Prod.snd, grammar.Knows token :=
    List.forall_mem_map.mpr fun leaf member => .inl (frontier.terminal leaf member)
  rw [frontier.yield]
  exact Grammar.firstUnknown?_eq_some known unknown

end SentenceSampler
