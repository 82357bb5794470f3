import SentenceSampler.Proofs.Grammar.Line

/-!
The forms of lines. Main statements: a line that says something has one of four forms, which tells what it
says; any other line is at fault, for want of the form of a rule or for what stands between the brackets.
-/
namespace SentenceSampler.Grammar

open Text

variable {line name lhs body rest : List Char} {symbols : List (List Char)} {statement : Statement}

/-- The word `@axiom`, blanks, and a name between angle brackets. -/
def IsDeclaration (line name : List Char) : Prop :=
  ∃ gap : List Char, gap ≠ [] ∧ (∀ b ∈ gap, isBlank b = true) ∧ name ≠ [] ∧ '>' ∉ name ∧
    line = '@' :: 'a' :: 'x' :: 'i' :: 'o' :: 'm' :: (gap ++ '<' :: (name ++ ['>']))

/-- A name between angle brackets, the sign of a rule, and a body between square brackets, the last of
which ends the line. Blanks may stand on both sides of the sign. -/
def IsRule (line lhs body : List Char) : Prop :=
  ∃ before after : List Char, (∀ b ∈ before, isBlank b = true) ∧ (∀ b ∈ after, isBlank b = true) ∧
    lhs ≠ [] ∧ '>' ∉ lhs ∧
    line = '<' :: (lhs ++ '>' :: (before ++ ':' :: ':' :: '=' :: (after ++ '[' :: (body ++ [']']))))

/-- Nothing but quoted symbols, with separators in front of them and behind them. -/
inductive Lists : List Char → List (List Char) → Prop where
  | separators {gap : List Char} (separators : gap.all isSeparator = true) : Lists gap []
  | quoted {gap symbol rest : List Char} {symbols : List (List Char)}
      (separators : gap.all isSeparator = true) (inside : '"' ∉ symbol) (later : Lists rest symbols) :
      Lists (gap ++ '"' :: (symbol ++ '"' :: rest)) (symbol :: symbols)

/-- What a line says by its form, once the blanks around it are taken off. -/
inductive Tells (line : List Char) : Statement → Prop where
  | blank (empty : trim line = []) : Tells line .nothing
  | comment (mark : (trim line).head? = some '#') : Tells line .nothing
  | start {name : List Char} (form : IsDeclaration (trim line) name) :
      Tells line (.start (String.ofList name))
  | rule {lhs body : List Char} {symbols : List (List Char)} (form : IsRule (trim line) lhs body)
      (lists : Lists body symbols) (some : symbols ≠ []) :
      Tells line (.rule ⟨String.ofList lhs, symbols.map String.ofList⟩)

/-! Bodies -/

theorem not_mem_of_separators {gap : List Char} (separators : gap.all isSeparator = true) : '"' ∉ gap := by
  intro member
  have separator := List.all_eq_true.mp separators '"' member
  exact absurd separator (by decide)

theorem Lists.readQuoted (lists : Lists body symbols) :
    ∃ left : List Char, readQuoted body = .ok (symbols, left) ∧ left.all isSeparator = true := by
  induction lists with
  | separators separators =>
    exact ⟨_, readQuoted_of_not_mem (not_mem_of_separators separators), separators⟩
  | quoted separators inside later ih =>
    obtain ⟨left, read, behind⟩ := ih
    refine ⟨left, ?_, behind⟩
    rw [readQuoted_quoted (not_mem_of_separators separators) inside, if_pos separators, read]
    rfl

theorem lists_of_readQuoted {left : List Char} (read : readQuoted body = .ok (symbols, left))
    (behind : left.all isSeparator = true) : Lists body symbols := by
  fun_induction Grammar.readQuoted body generalizing symbols left with
  | case1 =>
    cases read
    exact .separators behind
  | case2 =>
    cases read
    exact .separators behind
  | case3 => cases read
  | case4 body opening inside opened closing rest closed first separated others last later =>
    rename_i ih
    cases read
    have outer := (eq_of_dropWhile_mark opened).2
    have inner := (eq_of_dropWhile_mark closed).2
    rw [outer, inner]
    exact .quoted separated (not_mem_takeWhile_mark inside '"') (ih later behind)
  | case5 => cases read

theorem readSymbols_eq_ok_iff : readSymbols body = .ok symbols ↔ Lists body symbols ∧ symbols ≠ [] := by
  constructor
  · intro read
    refine ⟨?_, (of_readSymbols read).1⟩
    unfold readSymbols at read
    split at read
    · cases read
    · rename_i found left quoted
      split at read
      · rename_i behind
        split at read
        · cases read
        · cases read
          exact lists_of_readQuoted quoted behind
      · cases read
  · rintro ⟨lists, some⟩
    obtain ⟨left, read, behind⟩ := lists.readQuoted
    simp [readSymbols, read, behind, some]

/-- What stands between the brackets is at fault in ways of its own. -/
theorem readQuoted_ne_notARule (body : List Char) : Grammar.readQuoted body ≠ .error .notARule := by
  fun_induction Grammar.readQuoted body with
  | case3 text opening inside opened closing rest closed separated fault later ih => rwa [later] at ih
  | _ => simp

theorem readSymbols_ne_notARule (body : List Char) : readSymbols body ≠ .error .notARule := by
  unfold readSymbols
  split
  · rename_i fault read
    rintro ⟨⟩
    exact readQuoted_ne_notARule body read
  · split
    · split <;> simp
    · simp

/-! Whole lines -/

theorem Tells.readLine (tells : Tells line statement) : readLine line = .ok statement := by
  cases tells with
  | blank empty => simp [Grammar.readLine, empty]
  | comment mark => simp [Grammar.readLine, mark]
  | start form => exact readLine_of_readStart (readStart_eq_some_iff.mpr form)
  | rule form lists some =>
    rw [readLine_of_readRuleParts (readRuleParts_eq_some_iff.mpr form),
      readSymbols_eq_ok_iff.mpr ⟨lists, some⟩]
    rfl

/-- The ways to read a line, one for each thing that it can say, and two ways to be at fault. -/
theorem readLine_cases (line : List Char) :
    (∃ statement, Tells line statement) ∨
      (∃ lhs body fault, IsRule (trim line) lhs body ∧ readSymbols body = .error fault ∧
        Grammar.readLine line = .error fault) ∨
      (trim line ≠ [] ∧ (trim line).head? ≠ some '#' ∧ (¬ ∃ name, IsDeclaration (trim line) name) ∧
        (¬ ∃ lhs body, IsRule (trim line) lhs body) ∧ Grammar.readLine line = .error .notARule) := by
  by_cases empty : trim line = []
  · exact .inl ⟨_, .blank empty⟩
  by_cases mark : (trim line).head? = some '#'
  · exact .inl ⟨_, .comment mark⟩
  cases start : readStart (trim line) with
  | some name => exact .inl ⟨_, .start (readStart_eq_some_iff.mp start)⟩
  | none =>
    cases parts : readRuleParts (trim line) with
    | some found =>
      obtain ⟨lhs, body⟩ := found
      have form : IsRule (trim line) lhs body := readRuleParts_eq_some_iff.mp parts
      cases read : readSymbols body with
      | ok symbols =>
        obtain ⟨lists, some⟩ := readSymbols_eq_ok_iff.mp read
        exact .inl ⟨_, .rule form lists some⟩
      | error fault =>
        refine .inr (.inl ⟨lhs, body, fault, form, read, ?_⟩)
        rw [readLine_of_readRuleParts parts, read]
        rfl
    | none =>
      refine .inr (.inr ⟨empty, mark, ?_, ?_, by simp [Grammar.readLine, empty, mark, start, parts]⟩)
      · rintro ⟨name, form⟩
        rw [readStart_eq_some_iff.mpr form] at start
        cases start
      · rintro ⟨lhs, body, form⟩
        rw [readRuleParts_eq_some_iff.mpr form] at parts
        cases parts

theorem readLine_eq_ok_iff : Grammar.readLine line = .ok statement ↔ Tells line statement := by
  refine ⟨fun read => ?_, Tells.readLine⟩
  rcases readLine_cases line with ⟨told, tells⟩ | ⟨_, _, _, _, _, failed⟩ | ⟨_, _, _, _, failed⟩
  · cases tells.readLine.symm.trans read
    exact tells
  · cases failed.symm.trans read
  · cases failed.symm.trans read

theorem readLine_eq_start_iff :
    Grammar.readLine line = .ok (.start (String.ofList name)) ↔ IsDeclaration (trim line) name := by
  refine ⟨fun read => ?_, fun form => (Tells.start form).readLine⟩
  have tells := readLine_eq_ok_iff.mp read
  generalize told : String.ofList name = symbol at tells
  cases tells with
  | start form =>
    obtain rfl := String.ofList_injective told
    exact form

/-- The lines that are refused as a whole: those of none of the four forms. -/
theorem readLine_eq_notARule_iff :
    Grammar.readLine line = .error .notARule ↔
      trim line ≠ [] ∧ (trim line).head? ≠ some '#' ∧ (¬ ∃ name, IsDeclaration (trim line) name) ∧
        ¬ ∃ lhs body, IsRule (trim line) lhs body := by
  rcases readLine_cases line with
    ⟨statement, tells⟩ | ⟨lhs, body, fault, form, failed, read⟩ | ⟨inked, unmarked, other⟩
  · rw [tells.readLine]
    refine iff_of_false (by simp) ?_
    rintro ⟨inked, unmarked, undeclared, unruled⟩
    cases tells with
    | blank empty => exact inked empty
    | comment mark => exact unmarked mark
    | start form => exact undeclared ⟨_, form⟩
    | rule form => exact unruled ⟨_, _, form⟩
  · rw [read]
    refine iff_of_false ?_ fun ⟨_, _, _, unruled⟩ => unruled ⟨lhs, body, form⟩
    rintro ⟨⟩
    exact readSymbols_ne_notARule body failed
  · obtain ⟨undeclared, unruled, read⟩ := other
    exact iff_of_true read ⟨inked, unmarked, undeclared, unruled⟩

end SentenceSampler.Grammar
