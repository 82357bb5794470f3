import SentenceSampler.Rule
import Std.Data.TreeMap
import Std.Data.TreeSet

/-!
Rules indexed by their left-hand side, and the two sets of symbols that have a rule and that have
none. Main statements: a symbol is looked up to exactly its rules in the order they were given; the
first set has the same symbols as the index; and a symbol is in the second set exactly if it stands
on a right-hand side and on no left-hand side.
-/
namespace SentenceSampler.Grammar

/-- The rules that rewrite one symbol, in the order they were given. -/
def rulesOf (rules : List Rule) (symbol : Symbol) : List Rule :=
  rules.filter fun rule => rule.lhs = symbol

/-- One more rule for its left-hand side, after the earlier ones. -/
def addRule (index : Std.TreeMap Symbol (List Rule)) (rule : Rule) :
    Std.TreeMap Symbol (List Rule) :=
  index.alter rule.lhs fun earlier => some (earlier.getD [] ++ [rule])

def index (rules : List Rule) : Std.TreeMap Symbol (List Rule) := rules.foldl addRule ∅

/-- The symbols on left-hand sides. -/
def expandable (rules : List Rule) : Std.TreeSet Symbol :=
  rules.foldl (fun symbols rule => symbols.insert rule.lhs) ∅

/-- The symbols on right-hand sides that are not among those on left-hand sides. -/
def unexpandable (rules : List Rule) (expandable : Std.TreeSet Symbol) : Std.TreeSet Symbol :=
  Std.TreeSet.ofList ((rules.flatMap Rule.rhs).filter fun symbol => !expandable.contains symbol)

private theorem foldl_addRule_getElem? (rules : List Rule)
    (start : Std.TreeMap Symbol (List Rule)) (symbol : Symbol) :
    (rules.foldl addRule start)[symbol]? =
      if rulesOf rules symbol = [] then start[symbol]?
      else some (start[symbol]?.getD [] ++ rulesOf rules symbol) := by
  induction rules generalizing start with
  | nil => simp [rulesOf]
  | cons rule later ih =>
    rw [List.foldl_cons, ih]
    simp only [addRule, Std.TreeMap.getElem?_alter]
    by_cases same : rule.lhs = symbol
    · subst same
      by_cases none : rulesOf later rule.lhs = [] <;>
        simp_all [rulesOf]
    · have different : compare rule.lhs symbol ≠ .eq := by simpa using same
      simp [different, rulesOf, same]

theorem index_getElem? (rules : List Rule) (symbol : Symbol) :
    (index rules)[symbol]? =
      if rulesOf rules symbol = [] then none else some (rulesOf rules symbol) := by
  simp [index, foldl_addRule_getElem?]

theorem mem_index {rules : List Rule} {symbol : Symbol} :
    symbol ∈ index rules ↔ ∃ rule ∈ rules, rule.lhs = symbol := by
  rw [← Std.TreeMap.isSome_getElem?_iff_mem, index_getElem?]
  by_cases none : rulesOf rules symbol = [] <;> simp_all [rulesOf]

private theorem mem_foldl_insert {rules : List Rule} {start : Std.TreeSet Symbol} {symbol : Symbol} :
    symbol ∈ rules.foldl (fun symbols rule => symbols.insert rule.lhs) start ↔
      symbol ∈ start ∨ ∃ rule ∈ rules, rule.lhs = symbol := by
  induction rules generalizing start with
  | nil => simp
  | cons rule later ih =>
    have inserted : symbol ∈ start.insert rule.lhs ↔ rule.lhs = symbol ∨ symbol ∈ start := by simp
    rw [List.foldl_cons, ih, inserted]
    simp only [List.mem_cons, exists_eq_or_imp, or_assoc, or_left_comm]

theorem mem_expandable {rules : List Rule} {symbol : Symbol} :
    symbol ∈ expandable rules ↔ ∃ rule ∈ rules, rule.lhs = symbol := by
  simp [expandable, mem_foldl_insert]

/-- The index and the set are filled one beside the other. -/
theorem mem_expandable_iff_mem_index {rules : List Rule} {symbol : Symbol} :
    symbol ∈ expandable rules ↔ symbol ∈ index rules := by
  rw [mem_expandable, mem_index]

theorem mem_unexpandable {rules : List Rule} {symbol : Symbol} :
    symbol ∈ unexpandable rules (expandable rules) ↔
      (∃ rule ∈ rules, symbol ∈ rule.rhs) ∧ ¬ ∃ rule ∈ rules, rule.lhs = symbol := by
  rw [← mem_expandable]
  have absent : (expandable rules).contains symbol = false ↔ symbol ∉ expandable rules := by
    rw [← Std.TreeSet.contains_iff_mem, Bool.not_eq_true]
  simp [unexpandable, absent]

end SentenceSampler.Grammar
