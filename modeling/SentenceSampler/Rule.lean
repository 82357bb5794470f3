import SentenceSampler.Text

/-!
Production rules.
-/
namespace SentenceSampler

abbrev Symbol := String

/-- One symbol may be rewritten into a sequence of symbols. -/
structure Rule where
  lhs : Symbol
  rhs : List Symbol
deriving DecidableEq, Repr

/-- The left-hand side stands bare, the right-hand side as a list of quoted symbols. -/
def Rule.shown (rule : Rule) : String := rule.lhs ++ " -> " ++ Text.quotedList rule.rhs

end SentenceSampler
