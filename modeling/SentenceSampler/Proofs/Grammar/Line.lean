import Mathlib.Data.List.Basic
import Mathlib.Data.Option.Basic
import SentenceSampler.Grammar.Line
import SentenceSampler.Proofs.Text.Lines

/-!
What a rule line is made of. Main statements: a declaration and a rule are read exactly where their
parts stand in order, and quoted symbols are read one after the other.
-/
namespace SentenceSampler.Grammar

open Text

variable {text rest line lhs body name symbol : List Char} {symbols : List (List Char)}

/-! Names -/

theorem readName_eq_some_iff :
    readName text = some (name, rest) ↔
      name ≠ [] ∧ '>' ∉ name ∧ text = '<' :: (name ++ '>' :: rest) := by
  constructor
  · intro read
    unfold readName at read
    split at read
    · rename_i inside
      split at read
      · rename_i c name rest taken found
        cases read
        have whole := (eq_of_dropWhile_mark found).2
        have without := not_mem_takeWhile_mark inside '>'
        rw [taken] at without whole
        exact ⟨by simp, without, by rw [whole]⟩
      · cases read
    · cases read
  · rintro ⟨named, without, rfl⟩
    obtain ⟨c, later, rfl⟩ := List.exists_cons_of_ne_nil named
    simp only [readName, takeWhile_mark without, dropWhile_mark without]

theorem readName_unnamed : readName ('<' :: '>' :: rest) = none := rfl

/-! Declarations of the start symbol -/

theorem readStart_eq_some_iff :
    readStart line = some name ↔
      ∃ gap : List Char, gap ≠ [] ∧ (∀ b ∈ gap, isBlank b = true) ∧ name ≠ [] ∧ '>' ∉ name ∧
        line = '@' :: 'a' :: 'x' :: 'i' :: 'o' :: 'm' :: (gap ++ '<' :: (name ++ ['>'])) := by
  simp only [readStart, Option.bind_eq_bind, Option.bind_eq_some_iff, Option.guard_eq_some',
    List.isPrefixOf?_eq_some_iff_append_eq, exists_const, Option.some.injEq]
  constructor
  · rintro ⟨rest, rfl, blank, ⟨name, after⟩, read, ended, rfl⟩
    obtain rfl : after = [] := List.isEmpty_iff.mp ended
    obtain ⟨named, without, bracket⟩ := readName_eq_some_iff.mp read
    obtain ⟨gap, blanks, split⟩ := exists_gap rest
    rw [bracket] at split
    refine ⟨gap, ?_, blanks, named, without, by rw [split]; rfl⟩
    rintro rfl
    simp only [split, List.nil_append, List.head?_cons, Option.any_some] at blank
    exact absurd blank (by decide)
  · rintro ⟨gap, some, blanks, named, without, rfl⟩
    obtain ⟨b, later, rfl⟩ := List.exists_cons_of_ne_nil some
    refine ⟨b :: later ++ '<' :: (name ++ ['>']), rfl, blanks b (by simp), (name, []), ?_, rfl, rfl⟩
    rw [dropBlank_append _ blanks (by decide)]
    exact readName_eq_some_iff.mpr ⟨named, without, rfl⟩

theorem readStart_of_head (other : line.head? ≠ some '@') : readStart line = none := by
  cases read : readStart line with
  | none => rfl
  | some name =>
    obtain ⟨gap, -, -, -, -, rfl⟩ := readStart_eq_some_iff.mp read
    exact absurd rfl other

/-! Rules -/

theorem readRuleParts_eq_some_iff :
    readRuleParts line = some (lhs, body) ↔
      ∃ before after : List Char, (∀ b ∈ before, isBlank b = true) ∧
        (∀ b ∈ after, isBlank b = true) ∧ lhs ≠ [] ∧ '>' ∉ lhs ∧
        line = '<' :: (lhs ++ '>' ::
          (before ++ ':' :: ':' :: '=' :: (after ++ '[' :: (body ++ [']'])))) := by
  simp only [readRuleParts, Option.bind_eq_bind, Option.bind_eq_some_iff,
    List.isPrefixOf?_eq_some_iff_append_eq]
  constructor
  · rintro ⟨⟨lhs, rest⟩, read, later, sign, parts⟩
    obtain ⟨named, without, rfl⟩ := readName_eq_some_iff.mp read
    obtain ⟨before, blankBefore, splitBefore⟩ := exists_gap rest
    obtain ⟨after, blankAfter, splitAfter⟩ := exists_gap later
    split at parts
    · rename_i inside bracket
      split at parts
      · rename_i closed
        cases parts
        refine ⟨before, after, blankBefore, blankAfter, named, without, ?_⟩
        rw [List.dropLast_append_getLast? _ closed, ← bracket, ← splitAfter, splitBefore, ← sign]
        rfl
      · cases parts
    · cases parts
  · rintro ⟨before, after, blankBefore, blankAfter, named, without, rfl⟩
    refine ⟨_, readName_eq_some_iff.mpr ⟨named, without, rfl⟩, after ++ '[' :: (body ++ [']']), ?_, ?_⟩
    · rw [dropBlank_append _ blankBefore (by decide)]
      rfl
    · rw [dropBlank_append _ blankAfter (by decide)]
      simp

/-! Quoted symbols -/

theorem readQuoted_of_not_mem (without : '"' ∉ text) : readQuoted text = .ok ([], text) := by
  have none : text.dropWhile (· ≠ '"') = [] := List.dropWhile_eq_nil_iff.mpr (forall_ne_mark without)
  unfold readQuoted
  split
  · rfl
  · rename_i found
    rw [none] at found
    cases found

theorem readQuoted_unclosed {gap inside : List Char} (outside : '"' ∉ gap) (alone : '"' ∉ inside) :
    readQuoted (gap ++ '"' :: inside) = .ok ([], gap ++ '"' :: inside) := by
  have none : inside.dropWhile (· ≠ '"') = [] := List.dropWhile_eq_nil_iff.mpr (forall_ne_mark alone)
  rw [readQuoted]
  split
  · rfl
  · rename_i opened
    rw [dropWhile_mark outside] at opened
    cases opened
    split
    · rfl
    · rename_i found
      rw [none] at found
      cases found

theorem readQuoted_quoted {gap : List Char} (outside : '"' ∉ gap) (inside : '"' ∉ symbol) :
    readQuoted (gap ++ '"' :: (symbol ++ '"' :: rest)) =
      if gap.all isSeparator then
        (readQuoted rest).map fun (symbols, left) => (symbol :: symbols, left)
      else .error (.unquotedBefore (String.ofList symbol)) := by
  rw [readQuoted]
  split
  · rename_i none
    rw [dropWhile_mark outside] at none
    cases none
  · rename_i opened
    rw [dropWhile_mark outside] at opened
    cases opened
    split
    · rename_i none
      rw [dropWhile_mark inside] at none
      cases none
    · rename_i closed
      rw [dropWhile_mark inside] at closed
      cases closed
      simp only [takeWhile_mark outside, takeWhile_mark inside]
      cases readQuoted rest <;> rfl

/-- What is read as symbols is without quotation marks, and all of it stands in the text. -/
theorem of_readQuoted {left : List Char} (read : readQuoted text = .ok (symbols, left))
    (member : symbol ∈ symbols) : '"' ∉ symbol ∧ symbol ⊆ text := by
  fun_induction readQuoted text generalizing symbols left with
  | case1 => cases read; cases member
  | case2 => cases read; cases member
  | case3 => cases read
  | case4 text opening inside opened closing rest closed first separated symbols left later =>
    rename_i ih
    cases read
    have before : inside ⊆ text := by
      have outer : text.dropWhile (· ≠ '"') ⊆ text := (List.dropWhile_suffix _).subset
      rw [opened] at outer
      exact (List.cons_subset.mp outer).2
    rcases List.mem_cons.mp member with rfl | member
    · exact ⟨not_mem_takeWhile_mark inside '"', List.Subset.trans (List.takeWhile_subset _) before⟩
    · have inner : inside.dropWhile (· ≠ '"') ⊆ inside := (List.dropWhile_suffix _).subset
      rw [closed] at inner
      obtain ⟨without, among⟩ := ih later member
      have behind : rest ⊆ inside := (List.cons_subset.mp inner).2
      exact ⟨without, List.Subset.trans (List.Subset.trans among behind) before⟩
  | case5 => cases read

/-! Right-hand sides -/

/-- A symbol between quotation marks. -/
def quote (symbol : List Char) : List Char := '"' :: (symbol ++ ['"'])

/-- The symbols of a right-hand side, separated by a comma and a space. -/
def quoteAll (symbols : List (List Char)) : List Char := [',', ' '].intercalate (symbols.map quote)

theorem quoteAll_singleton : quoteAll [symbol] = quote symbol := by
  simp [quoteAll, List.intercalate]

theorem quoteAll_cons (symbol next : List Char) (later : List (List Char)) :
    quoteAll (symbol :: next :: later) = quote symbol ++ ',' :: ' ' :: quoteAll (next :: later) := by
  simp [quoteAll, List.intercalate_cons_cons]

/-- Behind separators, as behind a symbol that has been read. -/
theorem readQuoted_quoteAll {gap : List Char} (outside : '"' ∉ gap)
    (separators : gap.all isSeparator = true) (inside : ∀ other ∈ symbol :: symbols, '"' ∉ other) :
    readQuoted (gap ++ quoteAll (symbol :: symbols)) = .ok (symbol :: symbols, []) := by
  have first : '"' ∉ symbol := inside symbol (by simp)
  induction symbols generalizing symbol gap with
  | nil =>
    rw [quoteAll_singleton, quote, readQuoted_quoted outside first, if_pos separators,
      readQuoted_of_not_mem (by simp)]
    rfl
  | cons next later ih =>
    have rest : readQuoted ([',', ' '] ++ quoteAll (next :: later)) = .ok (next :: later, []) :=
      ih (by decide) (by decide) (fun other member => inside other (by simp [member]))
        (inside next (by simp))
    have split : gap ++ quoteAll (symbol :: next :: later) =
        gap ++ '"' :: (symbol ++ '"' :: ([',', ' '] ++ quoteAll (next :: later))) := by
      simp [quoteAll_cons, quote]
    rw [split, readQuoted_quoted outside first, if_pos separators, rest]
    rfl

theorem readSymbols_quoteAll (some : symbols ≠ []) (inside : ∀ symbol ∈ symbols, '"' ∉ symbol) :
    readSymbols (quoteAll symbols) = .ok symbols := by
  obtain ⟨symbol, later, rfl⟩ := List.exists_cons_of_ne_nil some
  have read : readQuoted ([] ++ quoteAll (symbol :: later)) = .ok (symbol :: later, []) :=
    readQuoted_quoteAll (by simp) (by simp) inside
  rw [List.nil_append] at read
  simp [readSymbols, read]

theorem of_readSymbols (read : readSymbols body = .ok symbols) :
    symbols ≠ [] ∧ ∀ symbol ∈ symbols, '"' ∉ symbol ∧ symbol ⊆ body := by
  unfold readSymbols at read
  split at read
  · cases read
  · rename_i found left quoted
    split at read
    · split at read
      · cases read
      · rename_i some
        cases read
        exact ⟨by simpa using some, fun symbol member => of_readQuoted quoted member⟩
    · cases read

/-! Whole lines -/

theorem readLine_of_readStart (read : readStart (trim line) = some name) :
    readLine line = .ok (.start (String.ofList name)) := by
  have word := read
  obtain ⟨gap, -, -, -, -, same⟩ := readStart_eq_some_iff.mp word
  rw [same] at read
  simp only [readLine, same, read]
  rfl

/-- Behind the parts of a rule line only its symbols may be at fault. -/
theorem readLine_of_readRuleParts (parts : readRuleParts (trim line) = some (lhs, body)) :
    readLine line = (readSymbols body).map fun symbols =>
      .rule ⟨String.ofList lhs, symbols.map String.ofList⟩ := by
  have bracket := parts
  obtain ⟨before, after, -, -, -, -, same⟩ := readRuleParts_eq_some_iff.mp bracket
  rw [same] at parts
  have start : readStart (trim line) = none := readStart_of_head (by simp [same])
  rw [same] at start
  simp only [readLine, same, start, parts]
  cases readSymbols body <;> rfl

theorem of_readLine_rule {rule : Rule} (read : readLine line = .ok (.rule rule)) :
    ∃ lhs body symbols, readRuleParts (trim line) = some (lhs, body) ∧ readSymbols body = .ok symbols ∧
      rule = ⟨String.ofList lhs, symbols.map String.ofList⟩ := by
  unfold readLine at read
  simp only at read
  split at read
  · cases read
  · split at read
    · cases read
    · split at read
      · cases read
      · rename_i lhs body parts
        split at read
        · cases read
        · rename_i symbols quoted
          cases read
          exact ⟨lhs, body, symbols, parts, quoted, rfl⟩

theorem readLine_notARule {c : Char} (trimmed : trim line = c :: rest) (other : c ≠ '#')
    (start : readStart (c :: rest) = none) (parts : readRuleParts (c :: rest) = none) :
    readLine line = .error .notARule := by
  simp [readLine, trimmed, other, start, parts]

end SentenceSampler.Grammar
