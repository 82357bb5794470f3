import SentenceSampler.Json.Record
import SentenceSampler.Proofs.Json.Reader

/-!
Records that are written as objects. Main statement: a reader of records takes an object of its two
fields in order if the readers of the fields take what is written for them.
-/
namespace SentenceSampler.Json

variable {α β : Type} {first : Field α} {second : Field β} {found after : Option α × Option β}
variable {start : Bool} {gap text behind rest : List Char}

/-! From member to member -/

theorem nextKey_first (blank : Gap gap) (rest : List Char) :
    nextKey true (gap ++ '"' :: rest) = .ok (true, rest) := by
  rw [nextKey, dropSpace_gap blank (by decide)]
  rfl

theorem nextKey_later (blank : Gap gap) (rest : List Char) :
    nextKey false (',' :: (gap ++ '"' :: rest)) = .ok (true, rest) := by
  have comma : dropSpace (',' :: (gap ++ '"' :: rest)) = ',' :: (gap ++ '"' :: rest) := rfl
  have quotation : dropSpace (gap ++ '"' :: rest) = '"' :: rest := dropSpace_gap blank rfl rest
  rw [nextKey, comma]
  simp [quotation]

theorem readMembers_close (blank : Gap gap) (rest : List Char) :
    readMembers first second start found (gap ++ '\x7d' :: rest) = .ok (found, rest) := by
  have next : nextKey start (gap ++ '\x7d' :: rest) = .ok (false, rest) := by
    rw [nextKey, dropSpace_gap blank (by decide)]
    rfl
  rw [readMembers]
  split <;> rename_i other <;> cases next.symm.trans other
  rfl

theorem readMembers_member {key : String}
    (next : nextKey start text = .ok (true, key.toList.flatMap escaped ++ '"' :: behind))
    (member : readMember first second found key behind = .ok (after, rest)) :
    readMembers first second start found text = readMembers first second false after rest := by
  have name := scanString_written key.toList behind
  rw [readMembers]
  split <;> rename_i other <;> cases next.symm.trans other
  split <;> rename_i other <;> cases name.symm.trans other
  rw [String.ofList_toList]
  split <;> rename_i other <;> cases member.symm.trans other
  rfl

/-! The two fields -/

variable {written : List Char → List Char}

theorem readValue_written {reader : Reader α} {value : α} (takes : reader.Takes written value)
    (blank : Gap gap) (rest : List Char) :
    readValue reader (':' :: (gap ++ written rest)) = .ok (value, rest) := by
  have colon : scanColon (':' :: (gap ++ written rest)) = .ok (gap ++ written rest) := rfl
  rw [readValue, colon]
  exact takes.read gap rest blank

theorem readMember_first {value : α} {other : Option β} (takes : first.reader.Takes written value)
    (blank : Gap gap) (rest : List Char) :
    readMember first second (none, other) first.key (':' :: (gap ++ written rest)) =
      .ok ((some value, other), rest) := by
  simp [readMember, readValue_written takes blank]

theorem readMember_second {value : β} {other : Option α} (different : second.key ≠ first.key)
    (takes : second.reader.Takes written value) (blank : Gap gap) (rest : List Char) :
    readMember first second (other, none) second.key (':' :: (gap ++ written rest)) =
      .ok ((other, some value), rest) := by
  simp [readMember, different, readValue_written takes blank]

/-! Whole records -/

theorem takes_record {name : String} {left right : Value} {one : α} {two : β} {level : Nat}
    (different : second.key ≠ first.key)
    (takesFirst : first.reader.Takes (left.layOutBefore (level + 1)) one)
    (takesSecond : second.reader.Takes (right.layOutBefore (level + 1)) two) :
    (Reader.record name first second).Takes
      ((Value.object [(first.key, left), (second.key, right)]).layOutBefore level) (one, two) := by
  refine ⟨fun rest => ⟨_, _, rfl, .inr (.inr rfl)⟩, fun gap rest blank => ?_⟩
  obtain ⟨line, lineBlank, newLine_eq⟩ := exists_gap_newLine (level + 1)
  obtain ⟨last, lastBlank, lastLine_eq⟩ := exists_gap_newLine level
  -- the two members one after the other, each on a line of its own
  have members : readMembers first second true (none, none)
      (layOutMembers level [(first.key, left), (second.key, right)] ('\x7d' :: rest)) =
        .ok ((some one, some two), rest) := by
    simp only [layOutMembers, layOutLaterMembers, layOutMember, writeText, newLine_eq, lastLine_eq]
    refine (readMembers_member (nextKey_first lineBlank _)
      (readMember_first takesFirst gap_space _)).trans ?_
    refine (readMembers_member (nextKey_later lineBlank _)
      (readMember_second different takesSecond gap_space _)).trans ?_
    exact readMembers_close lastBlank rest
  change readRecord name first second
    (gap ++ '\x7b' :: layOutMembers level [(first.key, left), (second.key, right)] ('\x7d' :: rest)) = _
  rw [readRecord, dropSpace_gap blank (by decide)]
  simp [readObject, members, Field.require, bind, Except.bind]

end SentenceSampler.Json
