import SentenceSampler.Proofs.Grammar.Parts
import SentenceSampler.Proofs.Grammar.Writing

/-!
Rule lines that are read. Main statements: the lines of a grammar say its parts if its left-hand sides
are not empty and say nothing otherwise, and a grammar is said by some text exactly if each of its rules
has a line of its own.
-/
namespace SentenceSampler

/-- A rule that has a line of its own. -/
structure Rule.Readable (rule : Rule) : Prop where
  named : rule.lhs ≠ ""
  lhs : rule.lhs.Lacks ['>', '\n']
  some : rule.rhs ≠ []
  rhs : ∀ symbol ∈ rule.rhs, symbol.Lacks ['"', '\n']

namespace Grammar

open Text

variable {grammar : Grammar} {rule : Rule} {symbol : Symbol} {line : List Char}

/-! One line -/

theorem startLine_ends (symbol : Symbol) :
    ∃ middle : List Char, startLine symbol = '@' :: (middle ++ ['>']) :=
  ⟨'a' :: 'x' :: 'i' :: 'o' :: 'm' :: ' ' :: '<' :: symbol.toList, rfl⟩

theorem ruleLine_ends (rule : Rule) :
    ∃ middle : List Char, ruleLine rule = '<' :: (middle ++ [']']) :=
  ⟨rule.lhs.toList ++ '>' :: ' ' :: ':' :: ':' :: '=' :: ' ' :: '[' ::
    quoteAll (rule.rhs.map String.toList), by simp [ruleLine]⟩

theorem trim_startLine (symbol : Symbol) : trim (startLine symbol) = startLine symbol := by
  obtain ⟨middle, same⟩ := startLine_ends symbol
  rw [same]
  exact trim_eq_self middle (by decide) (by decide)

theorem trim_ruleLine (rule : Rule) : trim (ruleLine rule) = ruleLine rule := by
  obtain ⟨middle, same⟩ := ruleLine_ends rule
  rw [same]
  exact trim_eq_self middle (by decide) (by decide)

theorem blank_space : ∀ b ∈ [' '], isBlank b = true :=
  List.forall_mem_singleton.mpr rfl

theorem readLine_startLine (named : symbol ≠ "") (lacks : '>' ∉ symbol.toList) :
    readLine (startLine symbol) = .ok (.start symbol) := by
  have read : readStart (trim (startLine symbol)) = some symbol.toList := by
    rw [trim_startLine]
    exact readStart_eq_some_iff.mpr ⟨[' '], by simp, blank_space, by simpa using named, lacks, rfl⟩
  rw [readLine_of_readStart read, String.ofList_toList]

theorem readLine_ruleLine (readable : rule.Readable) :
    readLine (ruleLine rule) = .ok (.rule rule) := by
  have parts : readRuleParts (trim (ruleLine rule)) =
      some (rule.lhs.toList, quoteAll (rule.rhs.map String.toList)) := by
    rw [trim_ruleLine]
    exact readRuleParts_eq_some_iff.mpr ⟨[' '], [' '], blank_space, blank_space,
      by simpa using readable.named, readable.lhs '>' (by simp), rfl⟩
  have symbols : readSymbols (quoteAll (rule.rhs.map String.toList)) =
      .ok (rule.rhs.map String.toList) := by
    refine readSymbols_quoteAll (by simpa using readable.some) ?_
    intro text member
    obtain ⟨symbol, among, rfl⟩ := List.mem_map.mp member
    exact readable.rhs symbol among '"' (by simp)
  rw [readLine_of_readRuleParts parts, symbols]
  simp [Except.map, Function.comp_def]

theorem readLine_startLine_unnamed : readLine (startLine "") = .error .notARule := by
  decide

theorem readLine_ruleLine_unnamed (unnamed : rule.lhs = "") :
    readLine (ruleLine rule) = .error .notARule := by
  have bracket : readName (ruleLine rule) = none := by
    simp [ruleLine, unnamed, readName_unnamed]
  have parts : readRuleParts (ruleLine rule) = none := by
    simp [readRuleParts, bracket]
  exact readLine_notARule (trim_ruleLine rule) (by decide) (readStart_of_head (by simp)) parts

theorem readable_of_readLine (read : readLine line = .ok (.rule rule)) (whole : '\n' ∉ line) :
    rule.Readable := by
  obtain ⟨lhs, body, symbols, parts, quoted, rfl⟩ := of_readLine_rule read
  obtain ⟨before, after, -, -, named, closed, trimmed⟩ := readRuleParts_eq_some_iff.mp parts
  obtain ⟨some, quotes⟩ := of_readSymbols quoted
  have newline : '\n' ∉ trim line := fun member => whole (mem_of_mem_trim member)
  rw [trimmed] at newline
  refine ⟨by simpa using named, ?_, by simpa using some, ?_⟩
  · have inside : '\n' ∉ lhs := fun member => newline (by simp [member])
    simpa [Symbol.Lacks] using ⟨closed, inside⟩
  · intro symbol member
    obtain ⟨text, among, rfl⟩ := List.mem_map.mp member
    obtain ⟨quotation, within⟩ := quotes text among
    have inside : '\n' ∉ text := fun member => newline (by simp [within member])
    simpa [Symbol.Lacks] using ⟨quotation, inside⟩

/-! All lines -/

theorem readStatements_eq_ok_iff {number : Nat} {written : List (List Char)}
    {statements : List Statement} :
    readStatements number written = .ok statements ↔ written.map readLine = statements.map .ok := by
  induction written generalizing number statements with
  | nil => cases statements <;> simp [readStatements]
  | cons line later ih =>
    rw [readStatements, List.map_cons]
    cases readLine line with
    | error fault => cases statements <;> simp
    | ok first =>
      cases statements with
      | nil => cases readStatements (number + 1) later <;> simp [Except.map]
      | cons statement others =>
        have rest : readStatements (number + 1) later = .ok others ↔
            later.map readLine = others.map .ok := ih
        cases read : readStatements (number + 1) later with
        | error failure => simp_all [Except.map]
        | ok found => simp_all [Except.map]

theorem readStatements_fault {number : Nat} {before later : List (List Char)}
    {statements : List Statement} {fault : LineFault}
    (earlier : before.map readLine = statements.map .ok) (failed : readLine line = .error fault) :
    readStatements number (before ++ line :: later) = .error (.parse (number + before.length) fault) := by
  induction before generalizing number statements with
  | nil => simp [readStatements, failed]
  | cons first before ih =>
    obtain ⟨statement, others, rfl, read, rest⟩ := List.map_eq_cons_iff.mp earlier.symm
    rw [List.cons_append, readStatements, ← read, ih rest.symm, List.length_cons]
    simp [Except.map, Nat.add_assoc, Nat.add_comm 1]

/-! Whole grammars -/

/-- Besides the symbols a right-hand side holds quotation marks, commas and spaces. -/
theorem quoteAll_subset (texts : List (List Char)) :
    quoteAll texts ⊆ '"' :: ',' :: ' ' :: texts.flatten := by
  intro c member
  induction texts with
  | nil => simp [quoteAll, List.intercalate] at member
  | cons text later ih =>
    cases later with
    | nil =>
      rw [quoteAll_singleton] at member
      simp only [quote, List.mem_cons, List.mem_append, List.flatten_cons] at member ⊢
      tauto
    | cons next later =>
      rw [quoteAll_cons] at member
      simp only [quote, List.mem_cons, List.mem_append, List.flatten_cons] at member ih ⊢
      tauto

theorem newline_not_mem_ruleLine (lhs : '\n' ∉ rule.lhs.toList)
    (rhs : ∀ symbol ∈ rule.rhs, '\n' ∉ symbol.toList) : '\n' ∉ ruleLine rule := by
  have symbols : '\n' ∉ quoteAll (rule.rhs.map String.toList) := by
    intro member
    obtain ⟨symbol, among, inside⟩ : ∃ symbol ∈ rule.rhs, '\n' ∈ symbol.toList := by
      simpa using quoteAll_subset _ member
    exact rhs symbol among inside
  simp [ruleLine, lhs, symbols]

theorem newline_not_mem_lhs (whole : '\n' ∉ ruleLine rule) : '\n' ∉ rule.lhs.toList :=
  fun member => whole (by simp [ruleLine, member])

theorem newline_not_mem_of_writable (writable : rule.Writable) : '\n' ∉ ruleLine rule :=
  newline_not_mem_ruleLine (writable.lhs '\n' (by simp))
    fun symbol member => writable.rhs symbol member '\n' (by simp)

theorem newline_not_mem_of_readable (readable : rule.Readable) : '\n' ∉ ruleLine rule :=
  newline_not_mem_ruleLine (readable.lhs '\n' (by simp))
    fun symbol member => readable.rhs symbol member '\n' (by simp)

/-- No symbol of a grammar breaks a line of it in two. -/
theorem lines_ruleLines (whole : ∀ rule ∈ grammar.rules, '\n' ∉ ruleLine rule) :
    lines (endLines grammar.ruleLines).toList = grammar.ruleLines := by
  rw [endLines, String.toList_ofList]
  refine lines_flatMap_newline ?_ ?_
  · intro line member
    rcases List.mem_cons.mp member with rfl | member
    · -- the start symbol is also a left-hand side
      obtain ⟨rule, among, same⟩ := grammar.exists_rule_start
      have start := newline_not_mem_lhs (whole rule among)
      rw [same] at start
      simp [startLine, start]
    · obtain ⟨rule, among, rfl⟩ := List.mem_map.mp member
      exact whole rule among
  · intro line member
    rcases List.mem_cons.mp member with rfl | member
    · obtain ⟨middle, same⟩ := startLine_ends grammar.start
      simp [same, List.getLast?_cons]
    · obtain ⟨rule, _, rfl⟩ := List.mem_map.mp member
      obtain ⟨middle, same⟩ := ruleLine_ends rule
      simp [same, List.getLast?_cons]

theorem map_readLine_ruleLines {start : Symbol} {rules : List Rule} (named : start ≠ "")
    (lacks : '>' ∉ start.toList) (readable : ∀ rule ∈ rules, rule.Readable) :
    (startLine start :: rules.map ruleLine).map readLine =
      (.start start :: rules.map Statement.rule).map .ok := by
  have each : ∀ rule ∈ rules, readLine (ruleLine rule) = .ok (.rule rule) :=
    fun rule among => readLine_ruleLine (readable rule among)
  simpa [readLine_startLine named lacks] using each

/-- The lines of a grammar say its start symbol and its rules, whichever start symbol is asked for. -/
theorem ofRuleLines_endLines (readable : ∀ rule ∈ grammar.rules, rule.Readable) (asked : Option Symbol) :
    ofRuleLines (endLines grammar.ruleLines) asked =
      ofParts grammar.rules asked (some grammar.start) := by
  have whole : ∀ rule ∈ grammar.rules, '\n' ∉ ruleLine rule :=
    fun rule among => newline_not_mem_of_readable (readable rule among)
  obtain ⟨rule, among, same⟩ := grammar.exists_rule_start
  have start := readable rule among
  have said : readStatements 1 grammar.ruleLines =
      .ok (.start grammar.start :: grammar.rules.map .rule) :=
    readStatements_eq_ok_iff.mpr
      (map_readLine_ruleLines (same ▸ start.named) (same ▸ start.lhs '>' (by simp)) readable)
  have rules : (grammar.rules.map Statement.rule).filterMap Statement.rule? = grammar.rules := by
    simp [List.filterMap_map, Function.comp_def, Statement.rule?]
  have starts : (grammar.rules.map Statement.rule).filterMap Statement.start? = [] := by
    simp [Statement.start?]
  rw [ofRuleLines, lines_ruleLines whole, said]
  simp only [bind, Except.bind, List.filterMap_cons, Statement.rule?, Statement.start?, rules, starts]
  rfl

theorem exists_first_unnamed {rules : List Rule} (unnamed : ∃ rule ∈ rules, rule.lhs = "") :
    ∃ before rule later, rules = before ++ rule :: later ∧ rule.lhs = "" ∧
      ∀ earlier ∈ before, earlier.lhs ≠ "" := by
  have found : (rules.find? fun rule => rule.lhs = "").isSome := by
    simpa using unnamed
  obtain ⟨rule, found⟩ := Option.isSome_iff_exists.mp found
  obtain ⟨empty, before, later, split, earlier⟩ := List.find?_eq_some_iff_append.mp found
  exact ⟨before, rule, later, split, by simpa using empty, by simpa using earlier⟩

theorem readable_of_writable (writable : rule.Writable) (named : rule.lhs ≠ "") (some : rule.rhs ≠ []) :
    rule.Readable := by
  refine ⟨named, fun mark among => ?_, some, writable.rhs⟩
  exact writable.lhs mark (by revert among; simp; tauto)

/-- The lines of a grammar with an empty left-hand side are not read, whichever start symbol is asked
for. -/
theorem ofRuleLines_endLines_unnamed (writable : ∀ rule ∈ grammar.rules, rule.Writable)
    (unnamed : ∃ rule ∈ grammar.rules, rule.lhs = "") (asked : Option Symbol) :
    ∃ number, ofRuleLines (endLines grammar.ruleLines) asked = .error (.parse number .notARule) := by
  have whole : ∀ rule ∈ grammar.rules, '\n' ∉ ruleLine rule :=
    fun rule among => newline_not_mem_of_writable (writable rule among)
  suffices fault : ∃ number, readStatements 1 grammar.ruleLines = .error (.parse number .notARule) by
    obtain ⟨number, fault⟩ := fault
    exact ⟨number, by rw [ofRuleLines, lines_ruleLines whole, fault]; rfl⟩
  by_cases start : grammar.start = ""
  · exact ⟨1, by rw [ruleLines, start, readStatements, readLine_startLine_unnamed]⟩
  · -- the lines up to the first rule without a name are read, and its own is at fault
    obtain ⟨before, first, later, split, empty, earlier⟩ := exists_first_unnamed unnamed
    obtain ⟨rule, among, same⟩ := grammar.exists_rule_start
    have lacks : '>' ∉ grammar.start.toList := same ▸ (writable rule among).lhs '>' (by simp)
    have readable : ∀ rule ∈ before, rule.Readable := by
      intro rule member
      have among : rule ∈ grammar.rules := by simp [split, member]
      exact readable_of_writable (writable rule among) (earlier rule member) (grammar.rhs_ne_nil rule among)
    have written : grammar.ruleLines =
        (startLine grammar.start :: before.map ruleLine) ++ ruleLine first :: later.map ruleLine := by
      simp [ruleLines, split]
    rw [written]
    exact ⟨_, readStatements_fault (map_readLine_ruleLines start lacks readable)
      (readLine_ruleLine_unnamed empty)⟩

theorem readable_of_ofRuleLines {text : String} {asked : Option Symbol}
    (read : ofRuleLines text asked = .ok grammar) : ∀ rule ∈ grammar.rules, rule.Readable := by
  intro rule member
  unfold ofRuleLines at read
  cases said : readStatements 1 (lines text.toList) with
  | error failure =>
    rw [said] at read
    cases read
  | ok statements =>
    rw [said] at read
    rw [rules_of_ofParts read] at member
    obtain ⟨statement, among, same⟩ := List.mem_filterMap.mp member
    obtain rfl : statement = .rule rule := by
      cases statement <;> simp_all [Statement.rule?]
    have each : .ok (.rule rule) ∈ (lines text.toList).map readLine := by
      rw [readStatements_eq_ok_iff.mp said]
      simpa using among
    obtain ⟨line, written, read⟩ := List.mem_map.mp each
    exact readable_of_readLine read (not_mem_of_mem_lines written)

/-- A grammar is said by some text exactly if each of its rules has a line of its own. -/
theorem exists_ofRuleLines_iff :
    (∃ text asked, ofRuleLines text asked = .ok grammar) ↔ ∀ rule ∈ grammar.rules, rule.Readable := by
  constructor
  · rintro ⟨text, asked, read⟩
    exact readable_of_ofRuleLines read
  · intro readable
    exact ⟨endLines grammar.ruleLines, none,
      (ofRuleLines_endLines readable none).trans grammar.ofRules_rules_start⟩

end Grammar

end SentenceSampler
