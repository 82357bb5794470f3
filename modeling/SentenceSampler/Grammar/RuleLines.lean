import SentenceSampler.Grammar
import SentenceSampler.Grammar.Line
import SentenceSampler.Text

/-!
Grammars written as rule lines.
-/
namespace SentenceSampler.Grammar

open Text

/-- A start symbol that was asked for wins over a declared one, and that over the left-hand side of
the first rule. -/
def chooseStart (asked declared : Option Symbol) (rules : List Rule) : Except Failure Symbol :=
  match asked.or declared with
  | some symbol => .ok symbol
  | none => match rules with
    | [] => .error (.invalidGrammar .noRules)
    | rule :: _ => .ok rule.lhs

def ofParts (rules : List Rule) (asked declared : Option Symbol) : Except Failure Grammar := do
  ofRules rules (← chooseStart asked declared rules)

def Statement.rule? : Statement → Option Rule
  | .rule stated => some stated
  | _ => none

def Statement.start? : Statement → Option Symbol
  | .start symbol => some symbol
  | _ => none

/-- What the lines say, each with its number; the first line that is at fault is told. -/
def readStatements (number : Nat) : List (List Char) → Except Failure (List Statement)
  | [] => .ok []
  | line :: later => match readLine line with
    | .error fault => .error (.parse number fault)
    | .ok statement => (readStatements (number + 1) later).map (statement :: ·)

/-- The last declaration of a start symbol counts. -/
def ofRuleLines (text : String) (asked : Option Symbol) : Except Failure Grammar := do
  let statements ← readStatements 1 (lines text.toList)
  ofParts (statements.filterMap Statement.rule?) asked
    (statements.filterMap Statement.start?).getLast?

/-- The start symbol and the rules in order, or the first symbol that has no place on a line. -/
def toRuleLines (grammar : Grammar) : Except Failure String := do
  let rules ← grammar.rules.mapM writeRule
  .ok (String.ofList (writeStart grammar.start ++ rules.flatten))

end SentenceSampler.Grammar
