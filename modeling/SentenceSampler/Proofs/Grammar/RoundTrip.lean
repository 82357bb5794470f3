import SentenceSampler.Grammar.Document
import SentenceSampler.Proofs.Grammar
import SentenceSampler.Proofs.Grammar.RuleLines
import SentenceSampler.Proofs.Json.Record

/-!
Grammars that are written and read back. Main statements: every grammar goes through JSON, whatever its
symbols are; what is written as rule lines is read back where no left-hand side is empty, and only there;
and what was read from rule lines is written in a normal form where no left-hand side holds a quotation
mark, and only there.
-/
namespace SentenceSampler.Grammar

/-! JSON -/

section json

open Json

theorem takes_rule (rule : Rule) (level : Nat) :
    Rule.reader.Takes (rule.toJson.layOutBefore level) rule :=
  (takes_record (by decide) (takes_text rule.lhs) (takes_list fun symbol _ => takes_text symbol)).map _

theorem takes_document (grammar : Grammar) (level : Nat) :
    documentReader.Takes (grammar.document.layOutBefore level) (some grammar.start, grammar.rules) :=
  takes_record (by decide) (takes_text grammar.start).optional (takes_list fun rule _ => takes_rule rule _)

theorem ofJson_toJson (grammar : Grammar) (asked : Option Symbol) :
    ofJson grammar.toJson asked = ofParts grammar.rules asked (some grammar.start) := by
  have read : documentReader.whole grammar.toJson.toList = .ok (some grammar.start, grammar.rules) := by
    rw [toJson, Value.indented, String.toList_ofList]
    exact (takes_document grammar 0).whole
  simp only [ofJson, read]

/-- Whatever its symbols hold, a grammar is read back from its JSON text. -/
theorem readBack_toJson (grammar : Grammar) : grammar.ReadBack (ofJson grammar.toJson) :=
  readBack_of_parts (ofJson_toJson grammar)

end json

/-! Rule lines -/

variable {grammar : Grammar}

theorem exists_toRuleLines_iff :
    (∃ text, grammar.toRuleLines = .ok text) ↔ ∀ rule ∈ grammar.rules, rule.Writable := by
  constructor
  · rintro ⟨text, written⟩
    exact (toRuleLines_eq_ok_iff.mp written).1
  · intro writable
    exact ⟨_, toRuleLines_eq_ok_iff.mpr ⟨writable, rfl⟩⟩

theorem ofRuleLines_of_written {text : String} (named : ∀ rule ∈ grammar.rules, rule.lhs ≠ "")
    (written : grammar.toRuleLines = .ok text) (asked : Option Symbol) :
    ofRuleLines text asked = ofParts grammar.rules asked (some grammar.start) := by
  obtain ⟨writable, rfl⟩ := toRuleLines_eq_ok_iff.mp written
  refine ofRuleLines_endLines (fun rule among => ?_) asked
  exact readable_of_writable (writable rule among) (named rule among) (grammar.rhs_ne_nil rule among)

/-! Written, then read -/

/-- Where no left-hand side is empty, a grammar is written exactly if no symbol of it holds a character
that its place does not allow, and it is read back from what is written. -/
theorem readBack_toRuleLines (named : ∀ rule ∈ grammar.rules, rule.lhs ≠ "") :
    ((∃ text, grammar.toRuleLines = .ok text) ↔ ∀ rule ∈ grammar.rules, rule.Writable) ∧
      ∀ text, grammar.toRuleLines = .ok text → grammar.ReadBack (ofRuleLines text) :=
  ⟨exists_toRuleLines_iff, fun _ written => readBack_of_parts (ofRuleLines_of_written named written)⟩

/-- Symbols made of the marks of the lines themselves. -/
def marks : Grammar :=
  (ofRules [⟨"#, [::=\r", ["", "]>\u2028", "#, [::=\r"]⟩] "#, [::=\r").toOption.get
    (toOption_ofRules_isSome (by decide) (by decide))

theorem readBack_toRuleLines_marks :
    (∀ rule ∈ marks.rules, rule.lhs ≠ "") ∧ (∀ rule ∈ marks.rules, rule.Writable) ∧
      ∃ text, marks.toRuleLines = .ok text ∧ marks.ReadBack (ofRuleLines text) := by
  have named : ∀ rule ∈ marks.rules, rule.lhs ≠ "" := by decide
  have writable : ∀ rule ∈ marks.rules, rule.Writable := by
    intro rule among
    obtain rfl : rule = ⟨"#, [::=\r", ["", "]>\u2028", "#, [::=\r"]⟩ := List.mem_singleton.mp among
    exact ⟨by decide, by decide⟩
  obtain ⟨text, written⟩ := (readBack_toRuleLines named).1.mpr writable
  exact ⟨named, writable, text, written, (readBack_toRuleLines named).2 text written⟩

/-- What is written is read back exactly if no left-hand side is empty. A grammar that is not written is
refused for a symbol of it, and so is every grammar that no text says, unless a left-hand side is
empty. -/
theorem toRuleLines_read_iff_named (grammar : Grammar) :
    (∀ text, grammar.toRuleLines = .ok text →
      (ofRuleLines text none = .ok grammar ↔ ∀ rule ∈ grammar.rules, rule.lhs ≠ "") ∧
      ((∃ rule ∈ grammar.rules, rule.lhs = "") →
        ∃ number, ofRuleLines text none = .error (.parse number .notARule))) ∧
    (∀ failure, grammar.toRuleLines = .error failure →
      ∃ symbol, failure = .invalidGrammar (.unwritable symbol)) ∧
    ((¬ ∃ text asked, ofRuleLines text asked = .ok grammar) →
      (∃ symbol, grammar.toRuleLines = .error (.invalidGrammar (.unwritable symbol))) ∨
        ∃ rule ∈ grammar.rules, rule.lhs = "") := by
  refine ⟨fun text written => ?_, fun _ => toRuleLines_eq_error, fun unsaid => ?_⟩
  · obtain ⟨writable, rfl⟩ := toRuleLines_eq_ok_iff.mp written
    refine ⟨⟨fun read rule among => ?_, fun named => ?_⟩, fun unnamed => ?_⟩
    · exact (readable_of_ofRuleLines read rule among).named
    · exact (ofRuleLines_of_written named written none).trans grammar.ofRules_rules_start
    · exact ofRuleLines_endLines_unnamed writable unnamed none
  · by_cases named : ∀ rule ∈ grammar.rules, rule.lhs ≠ ""
    · left
      cases written : grammar.toRuleLines with
      | error failure =>
        obtain ⟨symbol, rfl⟩ := toRuleLines_eq_error written
        exact ⟨symbol, rfl⟩
      | ok text =>
        have read := (ofRuleLines_of_written named written none).trans grammar.ofRules_rules_start
        exact absurd ⟨text, none, read⟩ unsaid
    · right
      simpa using named

/-- The empty symbol is written as a left-hand side, and not read. -/
theorem toRuleLines_unnamed :
    ∃ grammar : Grammar, grammar.rules = [⟨"", ["a"]⟩] ∧ grammar.start = "" ∧
      grammar.toRuleLines = .ok "@axiom <>\n<> ::= [\"a\"]\n" ∧
      ofRuleLines "@axiom <>\n<> ::= [\"a\"]\n" none = .error (.parse 1 .notARule) := by
  refine ⟨(ofRules [⟨"", ["a"]⟩] "").toOption.get
    (toOption_ofRules_isSome (by decide) (by decide)), ?_, ?_, ?_, ?_⟩ <;> cbv

/-! Read, then written -/

/-- A rule with a line of its own can be kept from being written by its left-hand side only. -/
theorem unwritable_of_readable {rule : Rule} (readable : rule.Readable) :
    unwritable rule = holding ['"'] rule.lhs := by
  have rhs : rule.rhs.flatMap (holding ['"', '\n']) = [] := by
    simpa [holding] using readable.rhs
  have lhs : rule.lhs.Lacks ['>', '"', '\n'] ↔ rule.lhs.Lacks ['"'] := by
    have others := readable.lhs
    simp only [Symbol.Lacks, List.mem_cons, List.not_mem_nil, or_false, forall_eq_or_imp,
      forall_eq] at others ⊢
    tauto
  simp [unwritable, rhs, holding, lhs]

theorem writable_of_readable {rule : Rule} (readable : rule.Readable) (unquoted : '"' ∉ rule.lhs.toList) :
    rule.Writable := by
  rw [← unwritable_eq_nil_iff, unwritable_of_readable readable]
  simpa [holding, Symbol.Lacks] using unquoted

/-- A grammar that was read is written where no left-hand side holds a quotation mark, in a form that is
read back and written again as it is; else it is refused for the first such left-hand side. -/
theorem toRuleLines_of_ofRuleLines {text : String} {asked : Option Symbol}
    (read : ofRuleLines text asked = .ok grammar) :
    ((∀ rule ∈ grammar.rules, '"' ∉ rule.lhs.toList) →
      ∃ normal, grammar.toRuleLines = .ok normal ∧ ofRuleLines normal none = .ok grammar ∧
        (ofRuleLines normal none).bind toRuleLines = .ok normal) ∧
    ∀ rule, grammar.rules.find? (fun rule => rule.lhs.toList.contains '"') = some rule →
      grammar.toRuleLines = .error (.invalidGrammar (.unwritable rule.lhs)) := by
  have readable := readable_of_ofRuleLines read
  refine ⟨fun unquoted => ?_, fun rule first => ?_⟩
  · have writable : ∀ rule ∈ grammar.rules, rule.Writable :=
      fun rule among => writable_of_readable (readable rule among) (unquoted rule among)
    have named : ∀ rule ∈ grammar.rules, rule.lhs ≠ "" := fun rule among => (readable rule among).named
    obtain ⟨normal, written⟩ := exists_toRuleLines_iff.mpr writable
    have again := (ofRuleLines_of_written named written none).trans grammar.ofRules_rules_start
    exact ⟨normal, written, again, by rw [again]; exact written⟩
  · -- nothing before the rule is in the way, and of its own symbols only the left-hand side
    obtain ⟨quoted, before, later, split, unquoted⟩ := List.find?_eq_some_iff_append.mp first
    have skipped : before.flatMap unwritable = [] := by
      refine List.flatMap_eq_nil_iff.mpr fun earlier among => unwritable_eq_nil_iff.mpr ?_
      exact writable_of_readable (readable earlier (by simp [split, among]))
        (by simpa using unquoted earlier among)
    have blamed : unwritable rule = [rule.lhs] := by
      rw [unwritable_of_readable (readable rule (by simp [split]))]
      simpa [holding, Symbol.Lacks] using quoted
    rw [toRuleLines_eq, split, List.flatMap_append, List.flatMap_cons, skipped, blamed]
    rfl

/-- A text with blanks, symbols side by side, a comment and two kinds of line ends. -/
theorem toRuleLines_of_ofRuleLines_blanks :
    ∃ grammar, ofRuleLines " <N>::=[\"x\"\"N\"]\r\n#\n@axiom\t<N>" none = .ok grammar ∧
      ∃ normal, grammar.toRuleLines = .ok normal ∧ ofRuleLines normal none = .ok grammar ∧
        (ofRuleLines normal none).bind toRuleLines = .ok normal := by
  have parts : (ofRuleLines " <N>::=[\"x\"\"N\"]\r\n#\n@axiom\t<N>" none).map Grammar.rules =
      .ok [⟨"N", ["x", "N"]⟩] := by cbv
  cases read : ofRuleLines " <N>::=[\"x\"\"N\"]\r\n#\n@axiom\t<N>" none with
  | error failure =>
    rw [read] at parts
    cases parts
  | ok grammar =>
    rw [read] at parts
    have rules : grammar.rules = [⟨"N", ["x", "N"]⟩] := Except.ok.inj parts
    refine ⟨grammar, rfl, (toRuleLines_of_ofRuleLines read).1 ?_⟩
    rw [rules]
    decide

/-- A quotation mark in a left-hand side is read, and not written. -/
theorem toRuleLines_of_quotation_mark :
    ∃ grammar, ofRuleLines "<a\"b> ::= [\"x\"]" none = .ok grammar ∧
      grammar.toRuleLines = .error (.invalidGrammar (.unwritable "a\"b")) := by
  have refused : (ofRuleLines "<a\"b> ::= [\"x\"]" none).bind toRuleLines =
      .error (.invalidGrammar (.unwritable "a\"b")) := by cbv
  have parts : (ofRuleLines "<a\"b> ::= [\"x\"]" none).map Grammar.rules =
      .ok [⟨"a\"b", ["x"]⟩] := by cbv
  cases read : ofRuleLines "<a\"b> ::= [\"x\"]" none with
  | error failure =>
    rw [read] at parts
    cases parts
  | ok grammar =>
    rw [read] at refused
    exact ⟨grammar, rfl, refused⟩

end SentenceSampler.Grammar
