import SentenceSampler.Proofs.Text.Lines

/-!
The layout of a text: how its lines end, and the blanks around them. Main statement: blanks that are added
to a line at either end are taken off again.
-/
namespace SentenceSampler.Text

variable {line front back : List Char}

/-! Blanks around a line -/

theorem dropBlank_front (blank : ∀ b ∈ front, isBlank b = true) (line : List Char) :
    dropBlank (front ++ line) = dropBlank line :=
  List.dropWhile_append_of_pos blank

theorem dropBlank_of_blank (blank : ∀ b ∈ line, isBlank b = true) : dropBlank line = [] :=
  List.dropWhile_eq_nil_iff.mpr blank

theorem dropBlankEnd_back (line : List Char) (blank : ∀ b ∈ back, isBlank b = true) :
    dropBlankEnd (line ++ back) = dropBlankEnd line := by
  have turned : ∀ b ∈ back.reverse, isBlank b = true := fun b member => blank b (List.mem_reverse.mp member)
  rw [dropBlankEnd, List.reverse_append, dropBlank_front turned, dropBlankEnd]

theorem trim_front (blank : ∀ b ∈ front, isBlank b = true) (line : List Char) :
    trim (front ++ line) = trim line := by
  rw [trim, dropBlank_front blank, trim]

theorem trim_back (line : List Char) (blank : ∀ b ∈ back, isBlank b = true) :
    trim (line ++ back) = trim line := by
  by_cases empty : line.dropWhile isBlank = []
  · have whole : dropBlank (line ++ back) = [] := by
      rw [dropBlank, List.dropWhile_append, empty]
      exact dropBlank_of_blank blank
    rw [trim, whole, trim, dropBlank, empty]
  · have front : dropBlank (line ++ back) = dropBlank line ++ back := by
      rw [dropBlank, List.dropWhile_append, if_neg (mt List.isEmpty_iff.mp empty), dropBlank]
    rw [trim, front, dropBlankEnd_back _ blank, trim]

theorem trim_of_blank (blank : ∀ b ∈ line, isBlank b = true) : trim line = [] := by
  rw [trim, dropBlank_of_blank blank]
  rfl

/-- Blanks at the end of a text do not hide the character it starts with. -/
theorem head?_trim {c : Char} (ink : isBlank c = false) (rest : List Char) :
    (trim (c :: rest)).head? = some c := by
  have blank : ∀ b ∈ (c :: rest).reverse.takeWhile isBlank, isBlank b = true :=
    fun b => List.mem_takeWhile_imp
  have kept : c :: rest = dropBlankEnd (c :: rest) ++ ((c :: rest).reverse.takeWhile isBlank).reverse := by
    rw [dropBlankEnd, dropBlank, ← List.reverse_append, List.takeWhile_append_dropWhile,
      List.reverse_reverse]
  rw [trim, dropBlank_cons rest ink]
  cases trimmed : dropBlankEnd (c :: rest) with
  | nil =>
    rw [trimmed, List.nil_append] at kept
    have member : c ∈ (c :: rest).reverse.takeWhile isBlank := by
      rw [← List.mem_reverse, ← kept]
      exact List.mem_cons_self
    cases ink.symm.trans (blank c member)
  | cons first later =>
    rw [trimmed] at kept
    rw [List.head?_cons, (List.cons.inj kept).1]

/-- A carriage return before a line feed is a blank at the end of its line. -/
theorem trim_dropReturn (line : List Char) : trim (dropReturn line) = trim line := by
  by_cases ended : line.getLast? = some '\r'
  · have blank : ∀ b ∈ ['\r'], isBlank b = true := List.forall_mem_singleton.mpr (by decide)
    have same : dropReturn line ++ ['\r'] = line := by
      rw [dropReturn, if_pos ended]
      exact List.dropLast_append_getLast? '\r' ended
    rw [← trim_back (dropReturn line) blank, same]
  · rw [dropReturn_eq_self ended]

/-! Lines that are written -/

/-- A text of some lines: each of them is ended by a line feed, with or without a carriage return before it,
and the last one may go without. -/
inductive Written : List (List Char) → List Char → Prop where
  | nothing : Written [] []
  | last {line : List Char} (whole : '\n' ∉ line) : Written [line] line
  | feed {line rest : List Char} {later : List (List Char)} (whole : '\n' ∉ line)
      (behind : Written later rest) : Written (line :: later) (line ++ '\n' :: rest)
  | returned {line rest : List Char} {later : List (List Char)} (whole : '\n' ∉ line)
      (behind : Written later rest) : Written (line :: later) (line ++ '\r' :: '\n' :: rest)

end SentenceSampler.Text
