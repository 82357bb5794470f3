import SentenceSampler.Proofs.Grammar.Form
import SentenceSampler.Proofs.Text.Pattern

/-!
Lines and the patterns that describe them. Main statement: a line is read as a declaration or as a rule
exactly if it has the one form or the other, no line has both, and the parts that it is read into are those
that the patterns capture.
-/
namespace SentenceSampler.Grammar

open Text

variable {line name lhs body : List Char}

/-- The pattern `^@axiom\s+<([^>]+)>$`. -/
def declarationPattern : Pattern :=
  .all [.start, .literal ['@', 'a', 'x', 'i', 'o', 'm'], .atLeastOne isBlank, .literal ['<'],
    .group (.atLeastOne (· ≠ '>')), .literal ['>'], .stop]

/-- The pattern `^<([^>]+)>\s*::=\s*\[(.*)\]$`, in which a dot is any character but a line feed. -/
def rulePattern : Pattern :=
  .all [.start, .literal ['<'], .group (.atLeastOne (· ≠ '>')), .literal ['>'], .many isBlank,
    .literal [':', ':', '='], .many isBlank, .literal ['['], .group (.many (· ≠ '\n')), .literal [']'],
    .stop]

/-! Unique parts -/

theorem IsDeclaration.unique {other : List Char} (form : IsDeclaration line name)
    (again : IsDeclaration line other) : name = other :=
  Option.some.inj ((readStart_eq_some_iff.mpr form).symm.trans (readStart_eq_some_iff.mpr again))

theorem IsRule.unique {lhs' body' : List Char} (form : IsRule line lhs body)
    (again : IsRule line lhs' body') : lhs = lhs' ∧ body = body' :=
  Prod.mk.inj (Option.some.inj
    ((readRuleParts_eq_some_iff.mpr form).symm.trans (readRuleParts_eq_some_iff.mpr again)))

theorem IsDeclaration.not_isRule (form : IsDeclaration line name) : ¬ IsRule line lhs body := by
  obtain ⟨gap, -, -, -, -, rfl⟩ := form
  rintro ⟨before, after, -, -, -, -, same⟩
  cases same

/-! Captures -/

theorem declarationPattern_leads (line : List Char) (found : List (List Char)) :
    (declarationPattern.Leads [] line fun way => way.captures = found) ↔
      ∃ name, found = [name] ∧ IsDeclaration line name := by
  simp only [declarationPattern, Pattern.leads_all_cons, Pattern.leads_all_nil, Pattern.leads_start,
    Pattern.leads_stop, Pattern.leads_literal, Pattern.leads_atLeastOne, Pattern.leads_group, Way.then,
    forall_ne_mark_iff]
  constructor
  · rintro ⟨-, _, rfl, gap, _, some, blanks, rfl, _, rfl, name, _, named, without, rfl, _, rfl, rfl, rfl⟩
    exact ⟨name, rfl, gap, some, blanks, named, without, rfl⟩
  · rintro ⟨name, rfl, gap, some, blanks, named, without, rfl⟩
    exact ⟨trivial, _, rfl, gap, _, some, blanks, rfl, _, rfl, name, _, named, without, rfl, _, rfl, rfl,
      rfl⟩

/-- A dot takes whatever the body may hold, as a line has no line feed. -/
theorem rulePattern_leads (whole : '\n' ∉ line) (found : List (List Char)) :
    (rulePattern.Leads [] line fun way => way.captures = found) ↔
      ∃ lhs body, found = [lhs, body] ∧ IsRule line lhs body := by
  simp only [rulePattern, Pattern.leads_all_cons, Pattern.leads_all_nil, Pattern.leads_start,
    Pattern.leads_stop, Pattern.leads_literal, Pattern.leads_atLeastOne, Pattern.leads_many,
    Pattern.leads_group, Way.then, forall_ne_mark_iff]
  constructor
  · rintro ⟨-, _, rfl, lhs, _, named, without, rfl, _, rfl, before, _, blankBefore, rfl, _, rfl, after, _,
      blankAfter, rfl, _, rfl, body, _, -, rfl, _, rfl, rfl, rfl⟩
    exact ⟨lhs, body, rfl, before, after, blankBefore, blankAfter, named, without, rfl⟩
  · rintro ⟨lhs, body, rfl, before, after, blankBefore, blankAfter, named, without, rfl⟩
    have inside : '\n' ∉ body := fun member => whole (by simp [member])
    exact ⟨trivial, _, rfl, lhs, _, named, without, rfl, _, rfl, before, _, blankBefore, rfl, _, rfl, after,
      _, blankAfter, rfl, _, rfl, body, _, inside, rfl, _, rfl, rfl, rfl⟩

theorem declarationPattern_captures {found : List (List Char)} :
    declarationPattern.captures? line = some found ↔ ∃ name, found = [name] ∧ IsDeclaration line name := by
  refine Pattern.captures?_eq_some_iff (declarationPattern_leads line) ?_
  rintro _ _ ⟨name, rfl, form⟩ ⟨other, rfl, again⟩
  rw [form.unique again]

theorem rulePattern_captures {found : List (List Char)} (whole : '\n' ∉ line) :
    rulePattern.captures? line = some found ↔ ∃ lhs body, found = [lhs, body] ∧ IsRule line lhs body := by
  refine Pattern.captures?_eq_some_iff (rulePattern_leads whole) ?_
  rintro _ _ ⟨lhs, body, rfl, form⟩ ⟨lhs', body', rfl, again⟩
  obtain ⟨rfl, rfl⟩ := form.unique again
  rfl

/-! Readings -/

/-- A line is read by its form: as a declaration or as a rule if it has the form of one, which no line has
in two ways; the patterns capture the parts of the form; and the line is refused if it has none of the
forms, unless it is blank or a comment. -/
structure ReadByForm (line : List Char) : Prop where
  declaration (name : List Char) :
    readLine line = .ok (.start (String.ofList name)) ↔ IsDeclaration (trim line) name
  parts (lhs body : List Char) : readRuleParts (trim line) = some (lhs, body) ↔ IsRule (trim line) lhs body
  rule (lhs body : List Char) (form : IsRule (trim line) lhs body) :
    readLine line = (readSymbols body).map fun symbols =>
      .rule ⟨String.ofList lhs, symbols.map String.ofList⟩
  only_rule (rule : Rule) (read : readLine line = .ok (.rule rule)) :
    ∃ lhs body symbols, IsRule (trim line) lhs body ∧ readSymbols body = .ok symbols ∧
      rule = ⟨String.ofList lhs, symbols.map String.ofList⟩
  one_form (name lhs body : List Char) : ¬ (IsDeclaration (trim line) name ∧ IsRule (trim line) lhs body)
  one_name (first second : List Char) :
    IsDeclaration (trim line) first → IsDeclaration (trim line) second → first = second
  one_rule (lhs body lhs' body' : List Char) :
    IsRule (trim line) lhs body → IsRule (trim line) lhs' body' → lhs = lhs' ∧ body = body'
  declaration_captures (found : List (List Char)) :
    declarationPattern.captures? (trim line) = some found ↔
      ∃ name, found = [name] ∧ IsDeclaration (trim line) name
  rule_captures (found : List (List Char)) :
    rulePattern.captures? (trim line) = some found ↔
      ∃ lhs body, found = [lhs, body] ∧ IsRule (trim line) lhs body
  refused :
    readLine line = .error .notARule ↔
      trim line ≠ [] ∧ (trim line).head? ≠ some '#' ∧ (¬ ∃ name, IsDeclaration (trim line) name) ∧
        ¬ ∃ lhs body, IsRule (trim line) lhs body

theorem readByForm (whole : '\n' ∉ line) : ReadByForm line where
  declaration _ := readLine_eq_start_iff
  parts _ _ := readRuleParts_eq_some_iff
  rule _ _ form := readLine_of_readRuleParts (readRuleParts_eq_some_iff.mpr form)
  only_rule rule read := by
    obtain ⟨lhs, body, symbols, parts, quoted, same⟩ := of_readLine_rule read
    exact ⟨lhs, body, symbols, readRuleParts_eq_some_iff.mp parts, quoted, same⟩
  one_form _ _ _ := fun ⟨declaration, rule⟩ => declaration.not_isRule rule
  one_name _ _ := IsDeclaration.unique
  one_rule _ _ _ _ := IsRule.unique
  declaration_captures _ := declarationPattern_captures
  rule_captures _ := rulePattern_captures fun member => whole (mem_of_mem_trim member)
  refused := readLine_eq_notARule_iff

/-- A rule between other blanks than spaces, whose parts hold the marks of the lines themselves. -/
def markedLine : List Char := "\u2028<[\"=>::=\u2003[ \"]>\",\"<N> ::= [\"]\t".toList

theorem readByForm_markedLine :
    '\n' ∉ markedLine ∧ readLine markedLine = .ok (.rule ⟨"[\"=", ["]>", "<N> ::= ["]⟩) ∧
      rulePattern.captures? (trim markedLine) =
        some ["[\"=".toList, " \"]>\",\"<N> ::= [\"".toList] := by
  have whole : '\n' ∉ markedLine := by decide
  have form : IsRule (trim markedLine) "[\"=".toList " \"]>\",\"<N> ::= [\"".toList :=
    ⟨[], ['\u2003'], by simp, List.forall_mem_singleton.mpr rfl, by decide, by decide, by decide⟩
  have symbols : readSymbols " \"]>\",\"<N> ::= [\"".toList = .ok ["]>".toList, "<N> ::= [".toList] := by
    cbv
  have read := readByForm whole
  refine ⟨whole, ?_, (read.rule_captures _).mpr ⟨_, _, rfl, form⟩⟩
  rw [read.rule _ _ form, symbols]
  rfl

end SentenceSampler.Grammar
