import SentenceSampler.Proofs.Grammar.Form
import SentenceSampler.Proofs.Grammar.Parts
import SentenceSampler.Proofs.Text.Layout

/-!
Texts of rule lines in another layout. Main statement: comments and blank lines that are inserted, blanks at
the ends of lines and other line ends change nothing of what is read but the number of the line that is at
fault.
-/
namespace SentenceSampler

/-- The same failure, told of a line that has moved. -/
def Failure.moveLine (place : Nat → Nat) : Failure → Failure
  | .parse line fault => .parse (place line) fault
  | other => other

namespace Grammar

open Text

variable {line line' : List Char} {written laid before after : List (List Char)} {place : Nat → Nat}

/-! Lines that differ in blanks -/

theorem readLine_congr (same : trim line = trim line') : readLine line = readLine line' := by
  simp only [readLine, same]

/-- A line that is only blank, or a comment behind blanks. -/
inductive Ignored : List Char → Prop where
  | blank {line : List Char} (blank : ∀ b ∈ line, isBlank b = true) : Ignored line
  | comment {front rest : List Char} (blank : ∀ b ∈ front, isBlank b = true) :
      Ignored (front ++ '#' :: rest)

theorem Ignored.readLine (ignored : Ignored line) : readLine line = .ok .nothing := by
  cases ignored with
  | blank blank => exact (Tells.blank (trim_of_blank blank)).readLine
  | comment blank =>
    refine (Tells.comment ?_).readLine
    rw [trim_front blank]
    exact head?_trim (by decide) _

/-- A line with blanks added at its ends. -/
def Padded (line line' : List Char) : Prop :=
  ∃ front back : List Char, (∀ b ∈ front, isBlank b = true) ∧ (∀ b ∈ back, isBlank b = true) ∧
    line' = front ++ (line ++ back)

theorem Padded.refl (line : List Char) : Padded line line :=
  ⟨[], [], List.forall_mem_nil _, List.forall_mem_nil _, (List.append_nil line).symm⟩

theorem Padded.trans {line'' : List Char} (first : Padded line line') (second : Padded line' line'') :
    Padded line line'' := by
  obtain ⟨front, back, blankFront, blankBack, rfl⟩ := first
  obtain ⟨front', back', blankFront', blankBack', rfl⟩ := second
  refine ⟨front' ++ front, back ++ back', ?_, ?_, by simp⟩
  · exact List.forall_mem_append.mpr ⟨blankFront', blankFront⟩
  · exact List.forall_mem_append.mpr ⟨blankBack, blankBack'⟩

theorem Padded.readLine_eq (padded : Padded line line') : readLine line' = readLine line := by
  obtain ⟨front, back, blankFront, blankBack, rfl⟩ := padded
  exact readLine_congr ((trim_front blankFront _).trans (trim_back line blankBack))

/-! What is told, apart from nothing -/

/-- What lines say, without those that say nothing. -/
def told (number : Nat) (lines : List (List Char)) : Except Failure (List Statement) :=
  (readStatements number lines).map (List.filter (· ≠ .nothing))

theorem told_cons (number : Nat) (line : List Char) (later : List (List Char)) :
    told number (line :: later) = match readLine line with
      | .error fault => .error (.parse number fault)
      | .ok statement =>
        (told (number + 1) later).map fun others => ([statement].filter (· ≠ .nothing)) ++ others := by
  simp only [told, readStatements]
  cases readLine line with
  | error fault => rfl
  | ok statement =>
    cases readStatements (number + 1) later with
    | error cause => rfl
    | ok statements => cases statement <;> rfl

theorem told_cons_ignored (ignored : readLine line = .ok .nothing) (number : Nat)
    (later : List (List Char)) : told number (line :: later) = told (number + 1) later := by
  rw [told_cons, ignored]
  cases told (number + 1) later <;> rfl

theorem told_congr (same : written.map readLine = laid.map readLine) (number : Nat) :
    told number written = told number laid := by
  induction written generalizing laid number with
  | nil => rw [List.map_eq_nil_iff.mp same.symm]
  | cons line later ih =>
    obtain ⟨line', later', rfl, first, rest⟩ := List.map_eq_cons_iff.mp same.symm
    rw [told_cons, told_cons, first, ih rest.symm]

/-- Lines that stand one line further down tell the same there. -/
theorem told_below {number : Nat} (moved : ∀ line ≥ number, place line = line + 1) :
    told (number + 1) written = (told number written).mapError (Failure.moveLine place) := by
  induction written generalizing number with
  | nil => rfl
  | cons line later ih =>
    rw [told_cons, told_cons, ih fun line below => moved line (by omega)]
    cases readLine line with
    | error fault => simp [Except.mapError, Failure.moveLine, moved number (Nat.le_refl _)]
    | ok statement => cases told (number + 1) later <;> rfl

theorem told_insert (ignored : readLine line = .ok .nothing) {number : Nat}
    (kept : ∀ line ≥ number, line < number + before.length → place line = line)
    (moved : ∀ line ≥ number + before.length, place line = line + 1) :
    told number (before ++ line :: after) =
      (told number (before ++ after)).mapError (Failure.moveLine place) := by
  induction before generalizing number with
  | nil =>
    rw [List.nil_append, List.nil_append, told_cons_ignored ignored]
    exact told_below moved
  | cons first others ih =>
    rw [List.length_cons] at kept moved
    have rest : told (number + 1) (others ++ line :: after) =
        (told (number + 1) (others ++ after)).mapError (Failure.moveLine place) :=
      ih (fun line since upTo => kept line (by omega) (by omega)) fun line below => moved line (by omega)
    rw [List.cons_append, List.cons_append, told_cons, told_cons, rest]
    cases readLine first with
    | error fault =>
      have stays : place number = number := kept number (Nat.le_refl _) (by omega)
      simp [Except.mapError, Failure.moveLine, stays]
    | ok statement => cases told (number + 1) (others ++ after) <;> rfl

theorem told_lines {text : List Char} (splits : Written written text) (number : Nat) :
    told number (lines text) = told number written := by
  induction splits generalizing number with
  | nothing => rfl
  | @last line whole =>
    by_cases empty : line = []
    · subst empty
      exact (told_cons_ignored (Ignored.blank (List.forall_mem_nil _)).readLine number []).symm
    · rw [lines_of_not_mem empty whole]
  | @feed line rest later whole _ ih =>
    rw [lines_append_newline rest whole, told_cons, told_cons, readLine_congr (trim_dropReturn line), ih]
  | @returned line rest later whole _ ih =>
    rw [(Splits.returned whole (splits_lines rest)).lines_eq, told_cons, told_cons, ih]

/-- The parts of a grammar are put together from what is told. -/
theorem ofRuleLines_eq_told (text : String) (asked : Option Symbol) :
    ofRuleLines text asked = (told 1 (lines text.toList)).bind fun statements =>
      ofParts (statements.filterMap Statement.rule?) asked
        (statements.filterMap Statement.start?).getLast? := by
  have rules (statements : List Statement) :
      (statements.filter (· ≠ .nothing)).filterMap Statement.rule? =
        statements.filterMap Statement.rule? := by
    rw [List.filterMap_filter]
    congr 1
    funext statement
    cases statement <;> rfl
  have starts (statements : List Statement) :
      (statements.filter (· ≠ .nothing)).filterMap Statement.start? =
        statements.filterMap Statement.start? := by
    rw [List.filterMap_filter]
    congr 1
    funext statement
    cases statement <;> rfl
  rw [ofRuleLines, told]
  cases readStatements 1 (lines text.toList) with
  | error cause => rfl
  | ok statements => simp only [Except.map, Except.bind, bind, rules, starts]

/-- Putting parts together has nothing to do with lines. -/
theorem mapError_ofParts (rules : List Rule) (asked declared : Option Symbol) :
    (ofParts rules asked declared).mapError (Failure.moveLine place) = ofParts rules asked declared := by
  unfold ofParts
  cases chosen : chooseStart asked declared rules with
  | error cause =>
    unfold chooseStart at chosen
    split at chosen
    · cases chosen
    · split at chosen <;> cases chosen
      rfl
  | ok start =>
    change (ofRules rules start).mapError _ = ofRules rules start
    obtain ⟨_, _, refused⟩ | ⟨_, refused⟩ | ⟨_, _, built, _⟩ := ofRules_cases rules start
    · rw [refused]
      rfl
    · rw [refused]
      rfl
    · rw [built]
      rfl

/-! Lines that are laid out anew -/

/-- The number of a line where another one is inserted behind so many lines. -/
def makeRoom (lines number : Nat) : Nat := if number ≤ lines then number else number + 1

/-- Lines whose layout is changed step by step, and the number that each of them has in the end. -/
inductive Relaid (written : List (List Char)) : List (List Char) → (Nat → Nat) → Prop where
  | same : Relaid written written id
  | insert {before after : List (List Char)} {line : List Char} {place : Nat → Nat}
      (relaid : Relaid written (before ++ after) place) (ignored : Ignored line) :
      Relaid written (before ++ line :: after) (makeRoom before.length ∘ place)
  | pad {before after : List (List Char)} {line line' : List Char} {place : Nat → Nat}
      (relaid : Relaid written (before ++ line :: after) place) (padded : Padded line line') :
      Relaid written (before ++ line' :: after) place

/-- Every line is found where it has been moved to, with blanks around it. -/
theorem Relaid.exists_padded (relaid : Relaid written laid place) {index : Nat}
    (found : written[index]? = some line) :
    ∃ index' line', place (index + 1) = index' + 1 ∧ laid[index']? = some line' ∧ Padded line line' := by
  induction relaid with
  | same => exact ⟨index, line, rfl, found, .refl line⟩
  | @insert before after other place _ ignored ih =>
    obtain ⟨index', line', moved, stands, padded⟩ := ih
    by_cases above : index' + 1 ≤ before.length
    · refine ⟨index', line', ?_, ?_, padded⟩
      · rw [Function.comp_apply, moved, makeRoom, if_pos above]
      · rw [List.getElem?_append_left above] at stands ⊢
        exact stands
    · refine ⟨index' + 1, line', ?_, ?_, padded⟩
      · rw [Function.comp_apply, moved, makeRoom, if_neg above]
      · have below : before.length ≤ index' := by omega
        rw [List.getElem?_append_right below] at stands
        rw [List.getElem?_append_right (by omega), Nat.succ_sub below, List.getElem?_cons_succ]
        exact stands
  | @pad before after old new place _ padded ih =>
    obtain ⟨index', line', moved, stands, around⟩ := ih
    by_cases here : index' = before.length
    · subst here
      obtain rfl : old = line' := by simpa using stands
      exact ⟨before.length, new, moved, by simp, around.trans padded⟩
    · refine ⟨index', line', moved, ?_, around⟩
      rw [← stands, List.getElem?_append, List.getElem?_append]
      split
      · rfl
      · obtain ⟨behind, same⟩ : ∃ behind, index' - before.length = behind + 1 :=
          Nat.exists_eq_add_one.mpr (by omega)
        rw [same, List.getElem?_cons_succ, List.getElem?_cons_succ]

theorem Relaid.told_eq (relaid : Relaid written laid place) :
    told 1 laid = (told 1 written).mapError (Failure.moveLine place) := by
  induction relaid with
  | same =>
    cases told 1 written with
    | error cause => cases cause <;> rfl
    | ok statements => rfl
  | @insert before after line place _ ignored ih =>
    have room : told 1 (before ++ line :: after) =
        (told 1 (before ++ after)).mapError (Failure.moveLine (makeRoom before.length)) :=
      told_insert ignored.readLine (fun number _ above => if_pos (by omega))
        fun number below => if_neg (by omega)
    rw [room, ih]
    cases told 1 written with
    | error cause => cases cause <;> rfl
    | ok statements => rfl
  | @pad before after line line' place _ padded ih =>
    rw [← ih]
    exact told_congr (by simp [padded.readLine_eq]) 1

/-- Two texts whose lines differ in their layout and in how they are ended are read as the same grammar, or
refused for the same reason, where only the number of a line that is at fault is the one that this line
has been moved to. -/
theorem ofRuleLines_relaid {text text' : String} (relaid : Relaid written laid place)
    (first : Written written text.toList) (second : Written laid text'.toList) (asked : Option Symbol) :
    ofRuleLines text' asked = (ofRuleLines text asked).mapError (Failure.moveLine place) ∧
      ∀ index line, written[index]? = some line →
        ∃ index' line', place (index + 1) = index' + 1 ∧ laid[index']? = some line' ∧
          Padded line line' := by
  refine ⟨?_, fun index line => relaid.exists_padded⟩
  rw [ofRuleLines_eq_told, ofRuleLines_eq_told, told_lines first, told_lines second, relaid.told_eq]
  cases told 1 written with
  | error cause => rfl
  | ok statements => exact (mapError_ofParts _ asked _).symm

/-- A rule and a line that is none, which goes from the second place to the fourth one. -/
theorem ofRuleLines_relaid_fourth :
    ofRuleLines "<N> ::= [\"x\"]\nN" none = .error (.parse 2 .notARule) ∧
      ofRuleLines "#\r\n\t<N> ::= [\"x\"]\u2003\n\r\nN\n" none = .error (.parse 4 .notARule) := by
  let rule : List Char := "<N> ::= [\"x\"]".toList
  let moved : List Char := '\t' :: (rule ++ ['\u2003'])
  have tab : ∀ c ∈ ['\t'], isBlank c = true := List.forall_mem_singleton.mpr (by decide)
  have wide : ∀ c ∈ ['\u2003'], isBlank c = true := List.forall_mem_singleton.mpr (by decide)
  have padded : Padded rule moved := ⟨['\t'], ['\u2003'], tab, wide, rfl⟩
  have comment : Ignored ['#'] := .comment (List.forall_mem_nil _)
  have blank : Ignored [] := .blank (List.forall_mem_nil _)
  have kept : Relaid [rule, ['N']] ([] ++ rule :: [['N']]) id := .same
  have first : Relaid [rule, ['N']] ([['#'], moved] ++ [['N']]) (makeRoom 0 ∘ id) :=
    (kept.pad padded).insert comment
  have relaid := first.insert blank
  have bare : Written [rule, ['N']] "<N> ::= [\"x\"]\nN".toList :=
    .feed (by decide) (.last (by decide))
  have other : Written [['#'], moved, [], ['N']] "#\r\n\t<N> ::= [\"x\"]\u2003\n\r\nN\n".toList :=
    .returned (by decide) (.feed (by decide) (.returned (by decide) (.feed (by decide) .nothing)))
  have refused : ofRuleLines "<N> ::= [\"x\"]\nN" none = .error (.parse 2 .notARule) := by cbv
  obtain ⟨same, -⟩ := ofRuleLines_relaid relaid bare other none
  rw [refused] at same
  exact ⟨refused, same⟩

end Grammar

end SentenceSampler
