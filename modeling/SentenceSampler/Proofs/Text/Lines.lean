import Mathlib.Data.List.Basic
import Mathlib.Data.List.TakeWhile
import SentenceSampler.Text

/-!
Texts put together from pieces, and taken apart again: at a mark that the pieces do not hold, at line
feeds, and at the blanks around a line. Main statements: the lines of a text written line after line are
the ones that were written, and every text splits into its lines in one way.
-/
namespace SentenceSampler.Text

/-! Pieces up to a mark -/

theorem forall_ne_mark {piece : List Char} {mark : Char} (without : mark ∉ piece) :
    ∀ c ∈ piece, decide (c ≠ mark) = true := by
  intro c member
  exact decide_eq_true (ne_of_mem_of_not_mem member without)

theorem forall_ne_mark_iff {piece : List Char} {mark : Char} :
    (∀ c ∈ piece, decide (c ≠ mark) = true) ↔ mark ∉ piece :=
  ⟨fun others member => by simpa using others mark member, forall_ne_mark⟩

theorem takeWhile_mark {piece rest : List Char} {mark : Char} (without : mark ∉ piece) :
    (piece ++ mark :: rest).takeWhile (· ≠ mark) = piece := by
  rw [List.takeWhile_append_of_pos (forall_ne_mark without)]
  simp

theorem dropWhile_mark {piece rest : List Char} {mark : Char} (without : mark ∉ piece) :
    (piece ++ mark :: rest).dropWhile (· ≠ mark) = mark :: rest := by
  rw [List.dropWhile_append_of_pos (forall_ne_mark without)]
  simp

theorem eq_of_append_mark {piece piece' rest rest' : List Char} {mark : Char} (without : mark ∉ piece)
    (without' : mark ∉ piece') (same : piece ++ mark :: rest = piece' ++ mark :: rest') :
    piece = piece' ∧ rest = rest' := by
  have pieces := congrArg (List.takeWhile (· ≠ mark)) same
  rw [takeWhile_mark without, takeWhile_mark without'] at pieces
  subst pieces
  exact ⟨rfl, (List.cons.inj (List.append_cancel_left same)).2⟩

theorem not_mem_takeWhile_mark (text : List Char) (mark : Char) :
    mark ∉ text.takeWhile (· ≠ mark) := by
  intro member
  simpa using List.mem_takeWhile_imp member

theorem eq_of_dropWhile_mark {text rest : List Char} {mark c : Char}
    (found : text.dropWhile (· ≠ mark) = c :: rest) :
    c = mark ∧ text = text.takeWhile (· ≠ mark) ++ mark :: rest := by
  have left : text.dropWhile (· ≠ mark) ≠ [] := by
    rw [found]
    exact List.cons_ne_nil c rest
  have stopped := List.head_dropWhile_not _ left
  simp only [found, List.head_cons] at stopped
  obtain rfl : c = mark := by simpa using stopped
  refine ⟨rfl, ?_⟩
  rw [← found, List.takeWhile_append_dropWhile]

/-! Lines -/

theorem cut_ne_nil (text : List Char) : cut text ≠ [] := by
  cases text with
  | nil => simp [cut]
  | cons c later =>
    simp only [cut, List.foldr_cons]
    split
    · simp
    · split <;> simp

theorem cut_cons {text piece : List Char} {pieces : List (List Char)} {c : Char} (other : c ≠ '\n')
    (same : cut text = piece :: pieces) : cut (c :: text) = (c :: piece) :: pieces := by
  simp only [cut, List.foldr_cons, if_neg other] at same ⊢
  rw [same]

theorem cut_of_not_mem {line : List Char} (whole : '\n' ∉ line) : cut line = [line] := by
  induction line with
  | nil => rfl
  | cons c later ih =>
    obtain ⟨other, whole⟩ : '\n' ≠ c ∧ '\n' ∉ later := by simpa using whole
    exact cut_cons (Ne.symm other) (ih whole)

theorem cut_append_newline {line : List Char} (rest : List Char) (whole : '\n' ∉ line) :
    cut (line ++ '\n' :: rest) = line :: cut rest := by
  induction line with
  | nil => rfl
  | cons c later ih =>
    obtain ⟨other, whole⟩ : '\n' ≠ c ∧ '\n' ∉ later := by simpa using whole
    exact cut_cons (Ne.symm other) (ih whole)

theorem not_mem_of_mem_cut {text piece : List Char} (member : piece ∈ cut text) : '\n' ∉ piece := by
  induction text generalizing piece with
  | nil => simp_all [cut]
  | cons c later ih =>
    by_cases newline : c = '\n'
    · subst newline
      rcases List.mem_cons.mp (show piece ∈ [] :: cut later from member) with rfl | member
      · simp
      · exact ih member
    · obtain ⟨first, pieces, same⟩ := List.exists_cons_of_ne_nil (cut_ne_nil later)
      rw [cut_cons newline same] at member
      rcases List.mem_cons.mp member with rfl | member
      · have without : '\n' ∉ first := ih (by simp [same])
        simp [Ne.symm newline, without]
      · exact ih (by simp [same, member])

theorem lines_append_newline {line : List Char} (rest : List Char) (whole : '\n' ∉ line) :
    lines (line ++ '\n' :: rest) = dropReturn line :: lines rest := by
  obtain ⟨piece, pieces, same⟩ := List.exists_cons_of_ne_nil (cut_ne_nil rest)
  simp [lines, cut_append_newline rest whole, same]

theorem lines_of_not_mem {line : List Char} (some : line ≠ []) (whole : '\n' ∉ line) :
    lines line = [line] := by
  simp [lines, cut_of_not_mem whole, some]

theorem dropReturn_eq_self {line : List Char} (last : line.getLast? ≠ some '\r') :
    dropReturn line = line := if_neg last

theorem lines_flatMap_newline {written : List (List Char)}
    (whole : ∀ line ∈ written, '\n' ∉ line) (last : ∀ line ∈ written, line.getLast? ≠ some '\r') :
    lines (written.flatMap (· ++ ['\n'])) = written := by
  induction written with
  | nil => rfl
  | cons line later ih =>
    have first : dropReturn line = line := dropReturn_eq_self (last line (by simp))
    have rest := ih (fun line member => whole line (by simp [member]))
      fun line member => last line (by simp [member])
    rw [List.flatMap_cons, List.append_assoc, List.singleton_append,
      lines_append_newline _ (whole line (by simp)), first, rest]

theorem not_mem_of_mem_lines {text line : List Char} (member : line ∈ lines text) :
    '\n' ∉ line := by
  have piece : ∀ piece ∈ cut text, '\n' ∉ piece := fun piece member => not_mem_of_mem_cut member
  rcases List.mem_append.mp member with ended | last
  · obtain ⟨whole, found, rfl⟩ := List.mem_map.mp ended
    have without := piece whole (List.dropLast_subset _ found)
    unfold dropReturn
    split
    · exact fun found => without (List.dropLast_subset _ found)
    · exact without
  · have found : line ∈ (cut text).getLast?.toList := (List.mem_filter.mp last).1
    exact piece line (List.mem_of_getLast? (by simpa using found))

/-- A text and its lines. Each line is ended by a line feed, and a carriage return right before that
belongs to the line end; what follows the last line feed is a line if it is not empty. -/
inductive Splits : List Char → List (List Char) → Prop where
  | nothing : Splits [] []
  | last {line : List Char} (some : line ≠ []) (whole : '\n' ∉ line) : Splits line [line]
  | feed {line rest : List Char} {later : List (List Char)} (whole : '\n' ∉ line)
      (bare : line.getLast? ≠ some '\r') (splits : Splits rest later) :
      Splits (line ++ '\n' :: rest) (line :: later)
  | returned {line rest : List Char} {later : List (List Char)} (whole : '\n' ∉ line)
      (splits : Splits rest later) : Splits (line ++ '\r' :: '\n' :: rest) (line :: later)

theorem Splits.lines_eq {text : List Char} {written : List (List Char)} (splits : Splits text written) :
    lines text = written := by
  induction splits with
  | nothing => rfl
  | last some whole => exact lines_of_not_mem some whole
  | feed whole bare _ ih => rw [lines_append_newline _ whole, dropReturn_eq_self bare, ih]
  | @returned line rest later whole _ ih =>
    have ended : '\n' ∉ line ++ ['\r'] := by simp [whole]
    have same : line ++ '\r' :: '\n' :: rest = (line ++ ['\r']) ++ '\n' :: rest := by simp
    rw [same, lines_append_newline _ ended, ih]
    simp [dropReturn]

theorem splits_lines (text : List Char) : Splits text (lines text) := by
  by_cases feeds : '\n' ∈ text
  · obtain ⟨line, rest, rfl, whole⟩ := List.eq_append_cons_of_mem feeds
    have later := splits_lines rest
    rw [lines_append_newline rest whole]
    by_cases ended : line.getLast? = some '\r'
    · have same := List.dropLast_append_getLast? '\r' ended
      have inside : '\n' ∉ line.dropLast := fun member => whole (List.dropLast_subset _ member)
      rw [dropReturn, if_pos ended, ← same]
      simpa using Splits.returned inside later
    · rw [dropReturn_eq_self ended]
      exact .feed whole ended later
  · by_cases empty : text = []
    · subst empty
      exact .nothing
    · rw [lines_of_not_mem empty feeds]
      exact .last empty feeds
termination_by text.length
decreasing_by
  rw [‹text = _›, List.length_append, List.length_cons]
  omega

theorem splits_iff {text : List Char} {written : List (List Char)} :
    Splits text written ↔ lines text = written :=
  ⟨Splits.lines_eq, fun same => same ▸ splits_lines text⟩

/-! Blanks around a line -/

theorem dropBlank_cons {c : Char} (rest : List Char) (ink : isBlank c = false) :
    dropBlank (c :: rest) = c :: rest := by
  simp [dropBlank, ink]

/-- Blanks in front of a character that is none are dropped, and nothing else. -/
theorem dropBlank_append {gap : List Char} {c : Char} (rest : List Char)
    (blank : ∀ b ∈ gap, isBlank b = true) (ink : isBlank c = false) :
    dropBlank (gap ++ c :: rest) = c :: rest := by
  rw [dropBlank, List.dropWhile_append_of_pos blank]
  exact dropBlank_cons rest ink

theorem exists_gap (text : List Char) :
    ∃ gap : List Char, (∀ b ∈ gap, isBlank b = true) ∧ text = gap ++ dropBlank text :=
  ⟨text.takeWhile isBlank, fun _ => List.mem_takeWhile_imp, List.takeWhile_append_dropWhile.symm⟩

theorem trim_eq_self {first last : Char} (middle : List Char) (start : isBlank first = false)
    (stop : isBlank last = false) : trim (first :: (middle ++ [last])) = first :: (middle ++ [last]) := by
  have back : (first :: (middle ++ [last])).reverse = last :: (middle.reverse ++ [first]) := by simp
  rw [trim, dropBlank_cons _ start, dropBlankEnd, back, dropBlank_cons _ stop, ← back,
    List.reverse_reverse]

theorem mem_of_mem_trim {text : List Char} {c : Char} (member : c ∈ trim text) : c ∈ text := by
  have front : c ∈ dropBlank text := by
    have back : c ∈ dropBlank (dropBlank text).reverse := List.mem_reverse.mp member
    exact List.mem_reverse.mp (List.dropWhile_suffix isBlank |>.subset back)
  exact (List.dropWhile_suffix isBlank).subset front

end SentenceSampler.Text
