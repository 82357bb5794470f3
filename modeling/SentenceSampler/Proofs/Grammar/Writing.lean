import SentenceSampler.Grammar.RuleLines
import SentenceSampler.Proofs.Grammar.Line

/-!
Grammars as rule lines. Main statement: what is written are the lines of the start symbol and of the
rules in order, unless a symbol holds a character that its place on a line does not allow; then the
first such symbol is told.
-/
namespace SentenceSampler

/-- No character of a symbol is among the given ones. -/
def Symbol.Lacks (symbol : Symbol) (marks : List Char) : Prop := ∀ mark ∈ marks, mark ∉ symbol.toList

instance (symbol : Symbol) (marks : List Char) : Decidable (symbol.Lacks marks) :=
  List.decidableBAll (fun mark => mark ∉ symbol.toList) marks

/-- Every symbol of a rule holds only characters that its place on a line allows. -/
structure Rule.Writable (rule : Rule) : Prop where
  lhs : rule.lhs.Lacks ['>', '"', '\n']
  rhs : ∀ symbol ∈ rule.rhs, symbol.Lacks ['"', '\n']

namespace Grammar

/-! Refusals -/

/-- The value, unless there are symbols in its way; the first of these is told. -/
def refusing {α : Type} (unwritable : List Symbol) (value : α) : Except Failure α :=
  match unwritable with
  | [] => .ok value
  | symbol :: _ => .error (.invalidGrammar (.unwritable symbol))

section refusing

variable {α β : Type} {unwritable : List Symbol} {value other : α}

theorem refusing_eq_ok_iff : refusing unwritable value = .ok other ↔ unwritable = [] ∧ value = other := by
  cases unwritable <;> simp [refusing]

theorem refusing_map (unwritable : List Symbol) (value : α) (use : α → β) :
    (refusing unwritable value >>= fun value => .ok (use value)) = refusing unwritable (use value) := by
  cases unwritable <;> rfl

theorem refusing_bind (unwritable later : List Symbol) (value : α) (use : α → β) :
    (refusing unwritable value >>= fun value => refusing later (use value)) =
      refusing (unwritable ++ later) (use value) := by
  cases unwritable <;> rfl

theorem mapM_refusing (blame : α → List Symbol) (make : α → β) (values : List α) :
    values.mapM (fun value => refusing (blame value) (make value)) =
      refusing (values.flatMap blame) (values.map make) := by
  induction values with
  | nil => rfl
  | cons value later ih =>
    calc (value :: later).mapM (fun value => refusing (blame value) (make value))
        = (refusing (blame value) (make value) >>= fun first =>
            later.mapM (fun value => refusing (blame value) (make value)) >>= fun rest =>
              .ok (first :: rest)) := List.mapM_cons
      _ = (refusing (blame value) (make value) >>= fun first =>
            refusing (later.flatMap blame) (first :: later.map make)) := by
          simp only [ih, refusing_map]
      _ = refusing ((value :: later).flatMap blame) ((value :: later).map make) := by
          rw [refusing_bind, List.flatMap_cons, List.map_cons]

end refusing

/-! Lines -/

def startLine (symbol : Symbol) : List Char :=
  '@' :: 'a' :: 'x' :: 'i' :: 'o' :: 'm' :: ' ' :: '<' :: (symbol.toList ++ ['>'])

/-- The line of a rule, whatever characters its symbols hold. -/
def ruleLine (rule : Rule) : List Char :=
  '<' :: (rule.lhs.toList ++ '>' :: ' ' :: ':' :: ':' :: '=' :: ' ' :: '[' ::
    (quoteAll (rule.rhs.map String.toList) ++ [']']))

/-- The start symbol, then the rules in order. -/
def ruleLines (grammar : Grammar) : List (List Char) :=
  startLine grammar.start :: grammar.rules.map ruleLine

/-- A text of lines, each of them ended. -/
def endLines (written : List (List Char)) : String :=
  String.ofList (written.flatMap (· ++ ['\n']))

/-- What keeps a symbol out of its place. -/
def holding (marks : List Char) (symbol : Symbol) : List Symbol :=
  if symbol.Lacks marks then [] else [symbol]

/-- The symbols of a rule that cannot be written, in order. -/
def unwritable (rule : Rule) : List Symbol :=
  holding ['>', '"', '\n'] rule.lhs ++ rule.rhs.flatMap (holding ['"', '\n'])

theorem writable_eq (marks : List Char) (symbol : Symbol) :
    writable marks symbol = refusing (holding marks symbol) symbol.toList := by
  by_cases lacks : symbol.Lacks marks
  · have none : symbol.toList.any marks.contains = false := by
      simpa using fun c member mark => lacks c mark member
    simp [writable, none, holding, lacks, refusing]
  · have some : symbol.toList.any marks.contains = true := by
      simp only [Symbol.Lacks, not_forall, not_not] at lacks
      obtain ⟨mark, among, member⟩ := lacks
      simpa using ⟨mark, member, among⟩
    simp [writable, some, holding, lacks, refusing]

theorem writeRule_eq (rule : Rule) :
    writeRule rule = refusing (unwritable rule) (ruleLine rule ++ ['\n']) := by
  have each : writable ['"', '\n'] = fun symbol => refusing (holding ['"', '\n'] symbol) symbol.toList :=
    funext (writable_eq _)
  simp only [writeRule, writable_eq ['>', '"', '\n'], each, mapM_refusing, refusing_map, refusing_bind,
    unwritable]
  simp [ruleLine, quoteAll, quote, Function.comp_def]

theorem toRuleLines_eq (grammar : Grammar) :
    grammar.toRuleLines = refusing (grammar.rules.flatMap unwritable) (endLines grammar.ruleLines) := by
  have each : writeRule = fun rule => refusing (unwritable rule) (ruleLine rule ++ ['\n']) :=
    funext writeRule_eq
  simp only [toRuleLines, each, mapM_refusing, refusing_map]
  simp [endLines, ruleLines, writeStart, startLine, List.flatMap_def, Function.comp_def]

theorem unwritable_eq_nil_iff {rule : Rule} : unwritable rule = [] ↔ rule.Writable := by
  have held : ∀ marks symbol, holding marks symbol = [] ↔ symbol.Lacks marks := by
    intro marks symbol
    simp [holding]
  simp only [unwritable, List.append_eq_nil_iff, List.flatMap_eq_nil_iff, held]
  exact ⟨fun ⟨lhs, rhs⟩ => ⟨lhs, rhs⟩, fun writable => ⟨writable.lhs, writable.rhs⟩⟩

/-- A grammar is written where all its rules are, and in one way. -/
theorem toRuleLines_eq_ok_iff {grammar : Grammar} {text : String} :
    grammar.toRuleLines = .ok text ↔
      (∀ rule ∈ grammar.rules, rule.Writable) ∧ endLines grammar.ruleLines = text := by
  simp only [toRuleLines_eq, refusing_eq_ok_iff, List.flatMap_eq_nil_iff, unwritable_eq_nil_iff]

/-- There is no other reason not to write a grammar than a symbol of it. -/
theorem toRuleLines_eq_error {grammar : Grammar} {failure : Failure}
    (refused : grammar.toRuleLines = .error failure) :
    ∃ symbol, failure = .invalidGrammar (.unwritable symbol) := by
  rw [toRuleLines_eq] at refused
  cases blamed : grammar.rules.flatMap unwritable with
  | nil =>
    rw [blamed] at refused
    cases refused
  | cons symbol later =>
    rw [blamed] at refused
    cases refused
    exact ⟨symbol, rfl⟩

end Grammar

end SentenceSampler
