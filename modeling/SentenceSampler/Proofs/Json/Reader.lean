import SentenceSampler.Json.Reader
import SentenceSampler.Proofs.Json.Scan

/-!
Readers and what is written for them. Main statements: a reader of texts takes a written text, a reader
of lists takes a written list if its items are taken one by one, and blanks in front change nothing.
-/
namespace SentenceSampler.Json

variable {α β : Type}

/-! Blanks -/

/-- Only characters that may stand between the parts of a text. -/
def Gap (text : List Char) : Prop := ∀ c ∈ text, isSpace c = true

theorem gap_nil : Gap [] := List.forall_mem_nil _

theorem gap_space : Gap [' '] := by
  intro c member
  rw [List.mem_singleton.mp member]
  decide

theorem exists_gap_newLine (level : Nat) : ∃ gap, Gap gap ∧ ∀ rest, newLine level rest = gap ++ rest := by
  refine ⟨'\n' :: List.replicate (2 * level) ' ', fun c member => ?_, fun rest => rfl⟩
  rcases List.mem_cons.mp member with rfl | member
  · decide
  · rw [List.eq_of_mem_replicate member]
    decide

theorem dropSpace_gap {gap : List Char} {c : Char} (blank : Gap gap) (other : isSpace c = false)
    (rest : List Char) : dropSpace (gap ++ c :: rest) = c :: rest := by
  rw [dropSpace, List.dropWhile_append_of_pos blank, List.dropWhile_cons, if_neg (by simp [other])]

/-! Written values -/

/-- The characters that a text, a list and an object start with. -/
def Opening (c : Char) : Prop := c = '"' ∨ c = '[' ∨ c = '\x7b'

theorem Opening.not_space {c : Char} (opening : Opening c) : isSpace c = false := by
  obtain rfl | rfl | rfl := opening <;> rfl

theorem Opening.not_close {c : Char} (opening : Opening c) : c ≠ ']' := by
  obtain rfl | rfl | rfl := opening <;> decide

theorem Opening.not_word {c : Char} (opening : Opening c) : c ≠ 'n' := by
  obtain rfl | rfl | rfl := opening <;> decide

/-- A reader takes what is written for a value in front of any rest, and leaves the rest. -/
structure Reader.Takes (reader : Reader α) (written : List Char → List Char) (value : α) : Prop where
  opens : ∀ rest, ∃ c later, written rest = c :: later ∧ Opening c
  read : ∀ gap rest, Gap gap → reader.read (gap ++ written rest) = .ok (value, rest)

namespace Reader.Takes

variable {reader : Reader α} {written : List Char → List Char} {value : α}

theorem read_now (takes : reader.Takes written value) (rest : List Char) :
    reader.read (written rest) = .ok (value, rest) :=
  takes.read [] rest gap_nil

theorem dropSpace_eq (takes : reader.Takes written value) {gap : List Char} (blank : Gap gap)
    (rest : List Char) : dropSpace (gap ++ written rest) = written rest := by
  obtain ⟨c, later, same, opening⟩ := takes.opens rest
  rw [same, dropSpace_gap blank opening.not_space]

theorem whole (takes : reader.Takes written value) : reader.whole (written []) = .ok value := by
  rw [Reader.whole, takes.read_now []]
  rfl

theorem map (takes : reader.Takes written value) (make : α → β) :
    (reader.map make).Takes written (make value) := by
  refine ⟨takes.opens, fun gap rest blank => ?_⟩
  simp only [Reader.map, takes.read gap rest blank]

/-- What is taken is not the word for no value. -/
theorem optional (takes : reader.Takes written value) :
    reader.optional.Takes written (some value) := by
  refine ⟨takes.opens, fun gap rest blank => ?_⟩
  obtain ⟨c, later, same, opening⟩ := takes.opens rest
  change readOptional reader (gap ++ written rest) = _
  unfold readOptional
  rw [takes.dropSpace_eq blank]
  split
  · rename_i word
    rw [same] at word
    cases word
    exact absurd rfl opening.not_word
  · rw [takes.read_now rest]

end Reader.Takes

/-! Texts -/

theorem takes_text (value : String) : Reader.text.Takes (writeText value) value := by
  refine ⟨fun rest => ⟨_, _, rfl, .inl rfl⟩, fun gap rest blank => ?_⟩
  change readText (gap ++ writeText value rest) = _
  rw [readText, writeText, dropSpace_gap blank (by decide)]
  simp only [scanString_written, String.ofList_toList]

/-! Lists -/

section items

variable {item : Reader α} {written : List Char → List Char} {value : α} {gap : List Char}

theorem readItems_close (first : Bool) (blank : Gap gap) (rest : List Char) :
    readItems item first (gap ++ ']' :: rest) = .ok ([], rest) := by
  have next : nextItem first (gap ++ ']' :: rest) = .ok (false, ']' :: rest) := by
    rw [nextItem, dropSpace_gap blank (by decide)]
    rfl
  rw [readItems]
  split <;> rename_i found <;> cases next.symm.trans found
  rfl

theorem nextItem_first (takes : item.Takes written value) (blank : Gap gap) (rest : List Char) :
    nextItem true (gap ++ written rest) = .ok (true, written rest) := by
  obtain ⟨c, later, same, opening⟩ := takes.opens rest
  rw [nextItem, takes.dropSpace_eq blank, same]
  simp [opening.not_close]

theorem nextItem_later (takes : item.Takes written value) (blank : Gap gap) (rest : List Char) :
    nextItem false (',' :: (gap ++ written rest)) = .ok (true, written rest) := by
  obtain ⟨c, later, same, opening⟩ := takes.opens rest
  have comma : dropSpace (',' :: (gap ++ c :: later)) = ',' :: (gap ++ c :: later) := rfl
  rw [same, nextItem, comma]
  simp [dropSpace_gap blank opening.not_space, opening.not_close]

theorem readItems_item {first : Bool} {text rest : List Char} (takes : item.Takes written value)
    (next : nextItem first text = .ok (true, written rest)) :
    readItems item first text =
      (readItems item false rest).map fun (values, later) => (value :: values, later) := by
  rw [readItems]
  split <;> rename_i found <;> cases next.symm.trans found
  split <;> rename_i one <;> cases (takes.read_now rest).symm.trans one
  cases readItems item false rest <;> rfl

variable {write : α → Value} {values : List α} {level : Nat}

theorem readItems_layOutLaterItems
    (each : ∀ value ∈ values, item.Takes ((write value).layOutBefore (level + 1)) value)
    (blank : Gap gap) (rest : List Char) :
    readItems item false (layOutLaterItems level (values.map write) (gap ++ ']' :: rest)) =
      .ok (values, rest) := by
  induction values with
  | nil => exact readItems_close false blank rest
  | cons value later ih =>
    obtain ⟨line, lineBlank, newLine_eq⟩ := exists_gap_newLine (level + 1)
    have takes := each value (by simp)
    have others := ih fun other member => each other (by simp [member])
    rw [List.map_cons, layOutLaterItems, newLine_eq, readItems_item takes (nextItem_later takes lineBlank _),
      others]
    rfl

theorem takes_list
    (each : ∀ value ∈ values, item.Takes ((write value).layOutBefore (level + 1)) value) :
    (Reader.list item).Takes ((Value.list (values.map write)).layOutBefore level) values := by
  refine ⟨fun rest => ⟨_, _, rfl, .inr (.inl rfl)⟩, fun gap rest blank => ?_⟩
  have inside : readItems item true (layOutItems level (values.map write) (']' :: rest)) =
      .ok (values, rest) := by
    cases values with
    | nil => exact readItems_close true gap_nil rest
    | cons value later =>
      obtain ⟨line, lineBlank, newLine_eq⟩ := exists_gap_newLine (level + 1)
      obtain ⟨last, lastBlank, lastLine_eq⟩ := exists_gap_newLine level
      have takes := each value (by simp)
      have eachLater : ∀ other ∈ later, item.Takes ((write other).layOutBefore (level + 1)) other :=
        fun other member => each other (by simp [member])
      have others := readItems_layOutLaterItems eachLater lastBlank rest
      rw [List.map_cons, layOutItems, newLine_eq, lastLine_eq,
        readItems_item takes (nextItem_first takes lineBlank _), others]
      rfl
  change readList item (gap ++ '[' :: layOutItems level (values.map write) (']' :: rest)) = _
  rw [readList, dropSpace_gap blank (by decide)]
  exact inside

end items

end SentenceSampler.Json
