import Mathlib.Data.List.Forall2
import SentenceSampler.Proofs.Grammar.Form
import SentenceSampler.Proofs.Grammar.RuleLines

/-!
Whole texts of rule lines. Main statement: a text is refused for its first line that tells nothing, by the
number of that line; otherwise its rules in order and the start symbol that is asked for, declared or the
first on a left-hand side are put together.
-/
namespace SentenceSampler.Grammar

open Text

variable {asked : Option Symbol} {statements : List Statement} {start : Symbol} {text : String}
variable {written : List (List Char)} {line : List Char}

/-! The start symbol -/

/-- The start symbol is the one that is asked for; or else the last one that is declared, before or after
the rules; or else the left-hand side of the first rule. -/
inductive Chooses (asked : Option Symbol) (statements : List Statement) : Symbol → Prop where
  | asked {symbol : Symbol} (given : asked = some symbol) : Chooses asked statements symbol
  | declared {symbol : Symbol} {before after : List Statement} (unasked : asked = none)
      (split : statements = before ++ .start symbol :: after)
      (last : ∀ other, .start other ∉ after) : Chooses asked statements symbol
  | first {rule : Rule} {before after : List Statement} (unasked : asked = none)
      (undeclared : ∀ symbol, .start symbol ∉ statements)
      (split : statements = before ++ .rule rule :: after) (first : ∀ other, .rule other ∉ before) :
      Chooses asked statements rule.lhs

theorem filterMap_eq_nil_iff_of_inverse {α : Type} {part : Statement → Option α} {whole : α → Statement}
    (inverse : ∀ statement value, part statement = some value ↔ statement = whole value) :
    statements.filterMap part = [] ↔ ∀ value, whole value ∉ statements := by
  rw [List.filterMap_eq_nil_iff]
  constructor
  · intro none value member
    cases ((inverse _ value).mpr rfl).symm.trans (none _ member)
  · intro absent statement member
    cases found : part statement with
    | none => rfl
    | some value => exact absurd ((inverse _ value).mp found ▸ member) (absent value)

theorem filterMap_start?_eq_nil_iff :
    statements.filterMap Statement.start? = [] ↔ ∀ symbol, .start symbol ∉ statements :=
  filterMap_eq_nil_iff_of_inverse fun statement symbol => by cases statement <;> simp [Statement.start?]

theorem filterMap_rule?_eq_nil_iff :
    statements.filterMap Statement.rule? = [] ↔ ∀ rule, .rule rule ∉ statements :=
  filterMap_eq_nil_iff_of_inverse fun statement rule => by cases statement <;> simp [Statement.rule?]

theorem Chooses.chooseStart (chooses : Chooses asked statements start) :
    chooseStart asked (statements.filterMap Statement.start?).getLast?
      (statements.filterMap Statement.rule?) = .ok start := by
  cases chooses with
  | asked given => simp [Grammar.chooseStart, given]
  | declared unasked split last =>
    have none := filterMap_start?_eq_nil_iff.mpr last
    simp [Grammar.chooseStart, unasked, split, none, Statement.start?]
  | first unasked undeclared split first =>
    have none := filterMap_start?_eq_nil_iff.mpr undeclared
    have earlier := filterMap_rule?_eq_nil_iff.mpr first
    rw [none, unasked]
    simp [Grammar.chooseStart, split, earlier, Statement.rule?]

theorem exists_last_start (declared : ∃ symbol, .start symbol ∈ statements) :
    ∃ symbol before after, statements = before ++ .start symbol :: after ∧
      ∀ other, .start other ∉ after := by
  induction statements with
  | nil => simp at declared
  | cons statement later ih =>
    by_cases behind : ∃ symbol, .start symbol ∈ later
    · obtain ⟨symbol, before, after, rfl, last⟩ := ih behind
      exact ⟨symbol, statement :: before, after, rfl, last⟩
    · obtain ⟨symbol, member⟩ := declared
      rcases List.mem_cons.mp member with rfl | member
      · exact ⟨symbol, [], later, rfl, not_exists.mp behind⟩
      · exact absurd ⟨symbol, member⟩ behind

theorem exists_first_rule (ruled : ∃ rule, .rule rule ∈ statements) :
    ∃ rule before after, statements = before ++ .rule rule :: after ∧ ∀ other, .rule other ∉ before := by
  induction statements with
  | nil => simp at ruled
  | cons statement later ih =>
    by_cases own : ∃ rule, statement = .rule rule
    · obtain ⟨rule, rfl⟩ := own
      exact ⟨rule, [], later, rfl, by simp⟩
    · obtain ⟨rule, member⟩ := ruled
      rcases List.mem_cons.mp member with same | member
      · exact absurd ⟨rule, same.symm⟩ own
      · obtain ⟨rule, before, after, rfl, first⟩ := ih ⟨rule, member⟩
        refine ⟨rule, statement :: before, after, rfl, fun other member => ?_⟩
        rcases List.mem_cons.mp member with same | member
        · exact own ⟨other, same.symm⟩
        · exact first other member

/-- Only where nothing is asked for and nothing is stated is there no start symbol. -/
theorem exists_chooses (asked : Option Symbol) (statements : List Statement) :
    (∃ start, Chooses asked statements start) ∨
      (asked = none ∧ (∀ symbol, .start symbol ∉ statements) ∧ ∀ rule, .rule rule ∉ statements) := by
  cases asked with
  | some symbol => exact .inl ⟨symbol, .asked rfl⟩
  | none =>
    by_cases declared : ∃ symbol, .start symbol ∈ statements
    · obtain ⟨symbol, _, _, split, last⟩ := exists_last_start declared
      exact .inl ⟨symbol, .declared rfl split last⟩
    by_cases ruled : ∃ rule, .rule rule ∈ statements
    · obtain ⟨rule, _, _, split, first⟩ := exists_first_rule ruled
      exact .inl ⟨rule.lhs, .first rfl (not_exists.mp declared) split first⟩
    · exact .inr ⟨rfl, not_exists.mp declared, not_exists.mp ruled⟩

/-! All lines -/

theorem forall₂_tells_iff :
    List.Forall₂ Tells written statements ↔ written.map readLine = statements.map .ok := by
  rw [← List.forall₂_eq_eq_eq, List.forall₂_map_left_iff, List.forall₂_map_right_iff]
  simp only [readLine_eq_ok_iff]

theorem readStatements_of_tells {number : Nat} {text : List Char} (splits : Splits text written)
    (tells : List.Forall₂ Tells written statements) :
    readStatements number (lines text) = .ok statements := by
  rw [splits_iff.mp splits]
  exact readStatements_eq_ok_iff.mpr (forall₂_tells_iff.mp tells)

theorem tells_or_fault (written : List (List Char)) :
    (∃ statements, List.Forall₂ Tells written statements) ∨
      ∃ before line later statements fault, written = before ++ line :: later ∧
        List.Forall₂ Tells before statements ∧ readLine line = .error fault := by
  induction written with
  | nil => exact .inl ⟨[], .nil⟩
  | cons line later ih =>
    cases read : readLine line with
    | error fault => exact .inr ⟨[], line, later, [], fault, rfl, .nil, read⟩
    | ok statement =>
      have tells := readLine_eq_ok_iff.mp read
      rcases ih with ⟨statements, all⟩ | ⟨before, bad, after, statements, fault, rfl, earlier, failed⟩
      · exact .inl ⟨statement :: statements, .cons tells all⟩
      · exact .inr ⟨line :: before, bad, after, statement :: statements, fault, rfl, .cons tells earlier,
          failed⟩

/-- What a text of rule lines comes to. -/
inductive Reading (text : List Char) (asked : Option Symbol) : Except Failure Grammar → Prop where
  | fault {before later : List (List Char)} {line : List Char} {statements : List Statement}
      {fault : LineFault} (splits : Splits text (before ++ line :: later))
      (earlier : List.Forall₂ Tells before statements) (untold : ¬ ∃ statement, Tells line statement)
      (cause : readLine line = .error fault) :
      Reading text asked (.error (.parse (before.length + 1) fault))
  | noRules {written : List (List Char)} {statements : List Statement} (splits : Splits text written)
      (tells : List.Forall₂ Tells written statements) (unasked : asked = none)
      (undeclared : ∀ symbol, .start symbol ∉ statements) (unruled : ∀ rule, .rule rule ∉ statements) :
      Reading text asked (.error (.invalidGrammar .noRules))
  | parts {written : List (List Char)} {statements : List Statement} {start : Symbol}
      (splits : Splits text written) (tells : List.Forall₂ Tells written statements)
      (chooses : Chooses asked statements start) :
      Reading text asked (ofRules (statements.filterMap Statement.rule?) start)

theorem exists_reading (text : List Char) (asked : Option Symbol) : ∃ result, Reading text asked result := by
  have splits := splits_lines text
  rcases tells_or_fault (lines text) with ⟨statements, tells⟩ | ⟨_, line, _, _, fault, same, earlier, failed⟩
  · rcases exists_chooses asked statements with ⟨start, chooses⟩ | ⟨unasked, undeclared, unruled⟩
    · exact ⟨_, .parts splits tells chooses⟩
    · exact ⟨_, .noRules splits tells unasked undeclared unruled⟩
  · rw [same] at splits
    refine ⟨_, .fault splits earlier ?_ failed⟩
    rintro ⟨statement, tells⟩
    cases failed.symm.trans tells.readLine

theorem Reading.eq {result : Except Failure Grammar} (reading : Reading text.toList asked result) :
    ofRuleLines text asked = result := by
  cases reading with
  | @fault before later line statements fault splits earlier untold cause =>
    have failed : readStatements 1 (lines text.toList) = .error (.parse (1 + before.length) fault) := by
      rw [splits_iff.mp splits]
      exact readStatements_fault (forall₂_tells_iff.mp earlier) cause
    rw [ofRuleLines, failed, Nat.add_comm]
    rfl
  | @noRules written statements splits tells unasked undeclared unruled =>
    have starts := filterMap_start?_eq_nil_iff.mpr undeclared
    have rules := filterMap_rule?_eq_nil_iff.mpr unruled
    rw [ofRuleLines, readStatements_of_tells splits tells]
    simp only [bind, Except.bind, ofParts, starts, rules, unasked]
    rfl
  | @parts written statements start splits tells chooses =>
    rw [ofRuleLines, readStatements_of_tells splits tells]
    simp only [bind, Except.bind, ofParts, chooses.chooseStart]

theorem rhs_ne_nil_of_tells (tells : List.Forall₂ Tells written statements) :
    ∀ rule ∈ statements.filterMap Statement.rule?, rule.rhs ≠ [] := by
  induction tells with
  | nil => simp
  | @cons line statement written statements told later ih =>
    intro rule member
    cases told with
    | rule form lists some =>
      rcases List.mem_cons.mp member with rfl | behind
      · simpa using some
      · exact ih rule behind
    | _ => exact ih rule member

/-- A text of rule lines comes to one thing. If there is a line that tells nothing, the first one is told
by its number among all lines, whatever start symbol is asked for and whatever follows it. Otherwise the
rules in order are put together with the start symbol that is asked for, or the last one that is declared,
or the left-hand side of the first rule; and the right-hand sides are no reason to refuse them. -/
theorem ofRuleLines_eq_iff (text : String) (asked : Option Symbol) :
    (∀ result, ofRuleLines text asked = result ↔ Reading text.toList asked result) ∧
      (∀ number fault, (Failure.parse number fault).message =
        "Parse error: line " ++ toString number ++ ": " ++ fault.message) ∧
      ∀ lhs, ofRuleLines text asked ≠ .error (.invalidGrammar (.emptyRule lhs)) := by
  obtain ⟨found, reading⟩ := exists_reading text.toList asked
  refine ⟨fun result => ⟨?_, Reading.eq⟩, fun number fault => ?_, fun lhs refused => ?_⟩
  · rintro rfl
    rwa [reading.eq]
  · simp [Failure.message, Failure.heading, Failure.detail, ← String.append_assoc]
  · rw [reading.eq] at refused
    cases reading with
    | fault => cases refused
    | noRules => cases refused
    | parts splits tells chooses =>
      obtain ⟨_, other⟩ | ⟨_, _, built, _⟩ := ofRules_of_full (rhs_ne_nil_of_tells tells) _
      · cases other.symm.trans refused
      · cases built.symm.trans refused

end SentenceSampler.Grammar
