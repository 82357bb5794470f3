import Mathlib.Data.Nat.Find
import SentenceSampler.Proofs.Grammar.Form

/-!
Bodies of rule lines by their quotation marks. Main statement: the pieces between the marks are in turn
outside and inside of quotes. The symbols are those inside, if there are any and nothing but commas and blanks
is outside; any other body is refused for the first text in front of a symbol, or else for the text behind the
last one, or else because it has no symbol.
-/
namespace SentenceSampler.Grammar

open Text

variable {body gap symbol inside piece : List Char} {pieces later : List (List Char)}

/-! Pairs of quotation marks -/

/-- A text has one quotation mark at most, or else a first pair of them and a text behind that. -/
@[elab_as_elim]
theorem quotation_induction {motive : List Char → Prop}
    (plain : ∀ text, '"' ∉ text → motive text)
    (unclosed : ∀ gap inside, '"' ∉ gap → '"' ∉ inside → motive (gap ++ '"' :: inside))
    (quoted : ∀ gap symbol rest, '"' ∉ gap → '"' ∉ symbol → motive rest →
      motive (gap ++ '"' :: (symbol ++ '"' :: rest)))
    (text : List Char) : motive text := by
  by_cases opened : '"' ∈ text
  · obtain ⟨gap, inside, rfl, outside⟩ := List.eq_append_cons_of_mem opened
    by_cases closed : '"' ∈ inside
    · obtain ⟨symbol, rest, rfl, within⟩ := List.eq_append_cons_of_mem closed
      exact quoted gap symbol rest outside within (quotation_induction plain unclosed quoted rest)
    · exact unclosed gap inside outside closed
  · exact plain text opened
termination_by text.length
decreasing_by
  simp only [‹text = _›, ‹inside = _›, List.length_append, List.length_cons]
  omega

theorem splitOn_unclosed (outside : '"' ∉ gap) (alone : '"' ∉ inside) :
    (gap ++ '"' :: inside).splitOn '"' = [gap, inside] := by
  rw [List.splitOn_append_cons_self_of_not_mem outside, List.splitOn_eq_singleton alone]

theorem splitOn_quoted (outside : '"' ∉ gap) (within : '"' ∉ symbol) (rest : List Char) :
    (gap ++ '"' :: (symbol ++ '"' :: rest)).splitOn '"' = gap :: symbol :: rest.splitOn '"' := by
  rw [List.splitOn_append_cons_self_of_not_mem outside, List.splitOn_append_cons_self_of_not_mem within]

/-! Pieces between quotation marks -/

/-- Nothing but commas and blanks. -/
def IsGap (piece : List Char) : Prop := ∀ c ∈ piece, c = ',' ∨ isBlank c = true

theorem all_isSeparator_iff : piece.all isSeparator = true ↔ IsGap piece := by
  simp [IsGap, isSeparator]

/-- The number of quotation marks between the pieces of a text. -/
def markCount (pieces : List (List Char)) : Nat := pieces.length - 1

/-- What stands behind the last pair of quotation marks. A mark without partner is part of it. -/
def behind (pieces : List (List Char)) : List Char :=
  ['"'].intercalate (pieces.drop (2 * (markCount pieces / 2)))

/-- Only gaps stand in front of the symbols. -/
def Separated (pieces : List (List Char)) : Prop :=
  ∀ k, 2 * k + 2 ≤ markCount pieces → IsGap (pieces.getD (2 * k) [])

/-- What a body comes to, by the pieces between its quotation marks, counted from zero. The pieces at even
places stand outside of the marks; those at odd places stand inside, but for the last one if no mark closes
it. -/
inductive Outcome (pieces : List (List Char)) : Except String (List (List Char)) → Prop where
  | symbols (even : markCount pieces % 2 = 0) (many : 2 ≤ markCount pieces)
      (gaps : ∀ k, 2 * k ≤ markCount pieces → IsGap (pieces.getD (2 * k) [])) :
      Outcome pieces (.ok ((List.range (markCount pieces / 2)).map fun k => pieces.getD (2 * k + 1) []))
  | unquoted {k : Nat} (closed : 2 * k + 2 ≤ markCount pieces)
      (first : ∀ j < k, IsGap (pieces.getD (2 * j) [])) (text : ¬ IsGap (pieces.getD (2 * k) [])) :
      Outcome pieces
        (.error ("unquoted text before \"" ++ String.ofList (pieces.getD (2 * k + 1) []) ++ "\""))
  | trailing (separated : Separated pieces) (text : ¬ IsGap (behind pieces)) :
      Outcome pieces (.error ("unexpected trailing text `" ++ String.ofList (trim (behind pieces)) ++ "`"))
  | empty (separated : Separated pieces) (last : IsGap (behind pieces)) (few : markCount pieces < 2) :
      Outcome pieces (.error "empty right-hand side")

theorem markCount_cons_cons (some : later ≠ []) :
    markCount (gap :: symbol :: later) = markCount later + 2 := by
  have positive := List.length_pos_iff.mpr some
  simp only [markCount, List.length_cons]
  omega

theorem behind_cons_cons (some : later ≠ []) : behind (gap :: symbol :: later) = behind later := by
  have shifted : 2 * ((markCount later + 2) / 2) = 2 * (markCount later / 2) + 2 := by omega
  rw [behind, markCount_cons_cons some, shifted]
  rfl

/-- Behind the last mark, if it closes a symbol, stands the last piece. -/
theorem behind_of_even (some : pieces ≠ []) (even : markCount pieces % 2 = 0) :
    behind pieces = pieces.getD (markCount pieces) [] := by
  obtain ⟨before, last, rfl⟩ := (List.eq_nil_or_concat' pieces).resolve_left some
  have counted : markCount (before ++ [last]) = before.length := by simp [markCount]
  rw [counted] at even ⊢
  have all : 2 * (before.length / 2) = before.length := by omega
  simp [behind, counted, all]

theorem mark_mem_behind_of_odd (odd : markCount pieces % 2 ≠ 0) : '"' ∈ behind pieces := by
  have some : pieces ≠ [] := by
    rintro rfl
    exact odd rfl
  obtain ⟨before, last, rfl⟩ := (List.eq_nil_or_concat' pieces).resolve_left some
  have counted : markCount (before ++ [last]) = before.length := by simp [markCount]
  rw [counted] at odd
  obtain ⟨earlier, gap, rfl⟩ := (List.eq_nil_or_concat' before).resolve_left (by rintro rfl; exact odd rfl)
  have all : 2 * ((earlier.length + 1) / 2) = earlier.length := by
    rw [List.length_append, List.length_singleton] at odd
    omega
  have rest : behind (earlier ++ [gap] ++ [last]) = gap ++ '"' :: last := by
    rw [behind, counted, List.length_append, List.length_singleton, all]
    simp
  rw [rest]
  simp

/-! Reading by pieces -/

theorem readQuoted_of_separated (separated : Separated (body.splitOn '"')) :
    readQuoted body =
      .ok ((List.range (markCount (body.splitOn '"') / 2)).map fun k => (body.splitOn '"').getD (2 * k + 1) [],
        behind (body.splitOn '"')) := by
  induction body using quotation_induction with
  | plain text without =>
    rw [List.splitOn_eq_singleton without, readQuoted_of_not_mem without]
    simp [markCount, behind]
  | unclosed gap inside outside alone =>
    rw [splitOn_unclosed outside alone, readQuoted_unclosed outside alone]
    simp [markCount, behind]
  | quoted gap symbol rest outside within ih =>
    have some := List.splitOn_ne_nil '"' rest
    rw [splitOn_quoted outside within] at separated ⊢
    rw [Separated, markCount_cons_cons some] at separated
    have separators : gap.all isSeparator = true := all_isSeparator_iff.mpr (separated 0 (by omega))
    have later := ih fun k closed => separated (k + 1) (by omega)
    have next : (markCount (rest.splitOn '"') + 2) / 2 = markCount (rest.splitOn '"') / 2 + 1 := by omega
    rw [readQuoted_quoted outside within, if_pos separators, later, behind_cons_cons some,
      markCount_cons_cons some, next, List.range_succ_eq_map, List.map_cons, List.map_map]
    rfl

theorem readQuoted_of_text {k : Nat} (closed : 2 * k + 2 ≤ markCount (body.splitOn '"'))
    (first : ∀ j < k, IsGap ((body.splitOn '"').getD (2 * j) []))
    (text : ¬ IsGap ((body.splitOn '"').getD (2 * k) [])) :
    readQuoted body =
      .error (.unquotedBefore (String.ofList ((body.splitOn '"').getD (2 * k + 1) []))) := by
  induction body using quotation_induction generalizing k with
  | plain body without =>
    rw [List.splitOn_eq_singleton without] at closed
    exact absurd closed (by simp [markCount])
  | unclosed gap inside outside alone =>
    rw [splitOn_unclosed outside alone] at closed
    exact absurd closed (by simp [markCount])
  | quoted gap symbol rest outside within ih =>
    have some := List.splitOn_ne_nil '"' rest
    rw [splitOn_quoted outside within] at closed first text ⊢
    rw [markCount_cons_cons some] at closed
    rw [readQuoted_quoted outside within]
    cases k with
    | zero =>
      have unseparated : ¬ gap.all isSeparator = true := fun found => text (all_isSeparator_iff.mp found)
      rw [if_neg unseparated]
      rfl
    | succ k =>
      have separators : gap.all isSeparator = true := all_isSeparator_iff.mpr (first 0 (by omega))
      have later := ih (by omega) (fun j before => first (j + 1) (by omega)) text
      rw [if_pos separators, later]
      rfl

theorem Outcome.eq {result : Except String (List (List Char))}
    (outcome : Outcome (body.splitOn '"') result) :
    (readSymbols body).mapError LineFault.message = result := by
  have some := List.splitOn_ne_nil '"' body
  cases outcome with
  | symbols even many gaps =>
    have read := readQuoted_of_separated fun k closed => gaps k (by omega)
    have all : 2 * (markCount (body.splitOn '"') / 2) = markCount (body.splitOn '"') := by omega
    have separators : (behind (body.splitOn '"')).all isSeparator = true := by
      rw [all_isSeparator_iff, behind_of_even some even, ← all]
      exact gaps _ (by omega)
    have found : markCount (body.splitOn '"') / 2 ≠ 0 := by omega
    simp [readSymbols, read, separators, found, Except.mapError]
  | unquoted closed first text =>
    rw [readSymbols, readQuoted_of_text closed first text]
    rfl
  | trailing separated text =>
    have unseparated : ¬ (behind (body.splitOn '"')).all isSeparator = true :=
      fun found => text (all_isSeparator_iff.mp found)
    simp only [readSymbols, readQuoted_of_separated separated, if_neg unseparated]
    rfl
  | empty separated last few =>
    have none : markCount (body.splitOn '"') / 2 = 0 := by omega
    simp only [readSymbols, readQuoted_of_separated separated, if_pos (all_isSeparator_iff.mpr last), none]
    rfl

/-- The conditions leave nothing out: more than the last piece stands behind the last pair of marks only if there
is a mark without partner. -/
theorem exists_outcome (some : pieces ≠ []) : ∃ result, Outcome pieces result := by
  classical
  by_cases bad : ∃ k, 2 * k + 2 ≤ markCount pieces ∧ ¬ IsGap (pieces.getD (2 * k) [])
  · obtain ⟨closed, text⟩ := Nat.find_spec bad
    refine ⟨_, .unquoted closed (fun j before => ?_) text⟩
    by_contra other
    exact Nat.find_min bad before ⟨by omega, other⟩
  have separated : Separated pieces := by
    intro k closed
    by_contra other
    exact bad ⟨k, closed, other⟩
  by_cases last : IsGap (behind pieces)
  · by_cases few : markCount pieces < 2
    · exact ⟨_, .empty separated last few⟩
    · have even : markCount pieces % 2 = 0 := by
        by_contra odd
        exact absurd (last _ (mark_mem_behind_of_odd odd)) (by decide)
      refine ⟨_, .symbols even (by omega) fun k within => ?_⟩
      by_cases final : 2 * k = markCount pieces
      · rwa [final, ← behind_of_even some even]
      · exact separated k (by omega)
  · exact ⟨_, .trailing separated last⟩

/-- A body is cut at its quotation marks. It lists symbols if the number of marks is even and not zero and all
pieces at even places are gaps, and then the symbols are the pieces at odd places, in order. Otherwise the
first symbol with something else than a gap in front is told; or else the text behind the last symbol, if that
is no gap; or else that there is no symbol. -/
theorem readSymbols_by_pieces (body : List Char) (result : Except String (List (List Char))) :
    (readSymbols body).mapError LineFault.message = result ↔ Outcome (body.splitOn '"') result := by
  obtain ⟨found, outcome⟩ := exists_outcome (List.splitOn_ne_nil '"' body)
  refine ⟨?_, Outcome.eq⟩
  rintro rfl
  rwa [outcome.eq]

/-- The comma is a symbol, and the text in front of it counts before the mark without partner. -/
example : readSymbols ['"', '"', 'x', '"', ',', '"', 'y', '"'] = .error (.unquotedBefore ",") := by cbv

end SentenceSampler.Grammar
