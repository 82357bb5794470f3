import SentenceSampler.Proofs.Json.Record

/-!
Values of any form in their compact writing. Main statements: the text of a value is read back as that value,
however deep it is, and holds no control character.
-/
namespace SentenceSampler.Json

/-- What holds of a value if it holds of its parts holds of all values. -/
@[elab_as_elim]
theorem Value.induction {motive : Value → Prop} (text : ∀ value, motive (.text value))
    (list : ∀ items, (∀ item ∈ items, motive item) → motive (.list items))
    (object : ∀ members, (∀ member ∈ members, motive member.2) → motive (.object members)) :
    ∀ value, motive value
  | .text value => text value
  | .list items => list items fun item _ => Value.induction text list object item
  | .object members => object members fun member _ => Value.induction text list object member.2
termination_by value => sizeOf value
decreasing_by
  · rename_i member
    have smaller := List.sizeOf_lt_of_mem member
    simp only [Value.list.sizeOf_spec]
    omega
  · rename_i among
    have smaller := List.sizeOf_lt_of_mem among
    obtain ⟨key, value⟩ := member
    simp only [Value.object.sizeOf_spec, Prod.mk.sizeOf_spec] at smaller ⊢
    omega

variable {value : Value} {values : List Value} {members : List (String × Value)} {rest : List Char}

/-! Readers of values of any form -/

/-- The members of an object from the next one on, and the text behind its closing brace. -/
def readPairs {α : Type} (reader : Reader α) (first : Bool) (text : List Char) :
    Except Fault (List (String × α) × List Char) :=
  match _next : nextKey first text with
  | .error fault => .error fault
  | .ok (false, rest) => .ok ([], rest)
  | .ok (true, inside) =>
    match _name : scanString inside with
    | .error fault => .error fault
    | .ok (key, rest) => match _one : readValue reader rest with
      | .error fault => .error fault
      | .ok (value, rest) => match readPairs reader false rest with
        | .error fault => .error fault
        | .ok (pairs, rest) => .ok ((String.ofList key, value) :: pairs, rest)
termination_by text.length
decreasing_by
  have opened := nextKey_shortens _next
  have named := scanString_shortens _name
  have shorter := readValue_length_le _one
  omega

theorem readPairs_length_le {α : Type} {reader : Reader α} {first : Bool} {text rest : List Char}
    {pairs : List (String × α)} (success : readPairs reader first text = .ok (pairs, rest)) :
    rest.length ≤ text.length := by
  fun_induction readPairs reader first text generalizing pairs rest with
  | case1 => cases success
  | case2 first text later next =>
    cases success
    exact Nat.le_of_lt (nextKey_shortens next)
  | case3 => cases success
  | case4 => cases success
  | case5 => cases success
  | case6 first text inside next key behind name value later one others after result ih =>
    cases success
    have opened := nextKey_shortens next
    have named := scanString_shortens name
    have shorter := readValue_length_le one
    have last := ih result
    omega

/-- A text, a list or an object; its items and members are left to another reader. -/
def readAny (inner : Reader Value) (text : List Char) : Except Fault (Value × List Char) :=
  match dropSpace text with
  | '"' :: rest => match scanString rest with
    | .error fault => .error fault
    | .ok (value, rest) => .ok (.text (String.ofList value), rest)
  | '[' :: rest => match readItems inner true rest with
    | .error fault => .error fault
    | .ok (values, rest) => .ok (.list values, rest)
  | '\x7b' :: rest => match readPairs inner true rest with
    | .error fault => .error fault
    | .ok (members, rest) => .ok (.object members, rest)
  | other => .error (mismatch "a text, a list or an object" other)

theorem readAny_shortens {inner : Reader Value} {text rest : List Char} {value : Value}
    (success : readAny inner text = .ok (value, rest)) : rest.length < text.length := by
  have spaced := length_dropSpace_le text
  unfold readAny at success
  split at success
  · rename_i same
    rw [same, List.length_cons] at spaced
    split at success
    · cases success
    · rename_i result
      cases success
      have shorter := scanString_shortens result
      omega
  · rename_i same
    rw [same, List.length_cons] at spaced
    split at success
    · cases success
    · rename_i result
      cases success
      have shorter := readItems_length_le result
      omega
  · rename_i same
    rw [same, List.length_cons] at spaced
    split at success
    · cases success
    · rename_i result
      cases success
      have shorter := readPairs_length_le result
      omega
  · cases success

/-- A reader of values up to a depth. -/
def Reader.any : Nat → Reader Value
  | 0 => ⟨fun _ => .error .expectedValue, fun success => by cases success⟩
  | depth + 1 => ⟨readAny (Reader.any depth), readAny_shortens⟩

/-- The value that a whole text is written for. No value is deeper than its text is long, so there is no
limit to the depth. -/
def parse (text : String) : Except Fault Value := (Reader.any text.toList.length).whole text.toList

/-! What is written -/

/-- Whatever follows a value stands behind its text. -/
def Value.Precedes (value : Value) : Prop := ∀ rest, value.writeBefore rest = value.writeBefore [] ++ rest

theorem writeLaterItems_of_precedes (each : ∀ value ∈ values, value.Precedes) (rest : List Char) :
    writeLaterItems values rest = values.flatMap (fun value => ',' :: value.writeBefore []) ++ rest := by
  induction values with
  | nil => rfl
  | cons value later ih =>
    have first := each value List.mem_cons_self
    have others := ih fun other member => each other (List.mem_cons_of_mem _ member)
    rw [writeLaterItems, first, others, List.flatMap_cons]
    simp

theorem writeMember_of_precedes {member : String × Value} (precedes : member.2.Precedes) (rest : List Char) :
    writeMember member rest = writeMember member [] ++ rest := by
  rw [writeMember, precedes, writeMember]
  simp [writeText]

theorem writeLaterMembers_of_precedes (each : ∀ member ∈ members, member.2.Precedes) (rest : List Char) :
    writeLaterMembers members rest = members.flatMap (fun member => ',' :: writeMember member []) ++ rest := by
  induction members with
  | nil => rfl
  | cons member later ih =>
    have first := writeMember_of_precedes (each member List.mem_cons_self)
    have others := ih fun other among => each other (List.mem_cons_of_mem _ among)
    rw [writeLaterMembers, first, others, List.flatMap_cons]
    simp

theorem precedes (value : Value) : value.Precedes := by
  induction value using Value.induction with
  | text value =>
    intro rest
    simp [Value.writeBefore, writeText]
  | list items each =>
    intro rest
    cases items with
    | nil => rfl
    | cons item later =>
      have first := each item List.mem_cons_self
      have others := writeLaterItems_of_precedes fun other member => each other (List.mem_cons_of_mem _ member)
      simp only [Value.writeBefore, writeItems, others]
      rw [first, first (_ ++ [']'])]
      simp
  | object members each =>
    intro rest
    cases members with
    | nil => rfl
    | cons member later =>
      have first := writeMember_of_precedes (each member List.mem_cons_self)
      have others :=
        writeLaterMembers_of_precedes fun other among => each other (List.mem_cons_of_mem _ among)
      simp only [Value.writeBefore, writeMembers, others]
      rw [first, first (_ ++ ['\x7d'])]
      simp

theorem writeList_cons (item : Value) (later : List Value) :
    (Value.list (item :: later)).writeBefore [] =
      '[' :: (item.writeBefore [] ++ later.flatMap (fun value => ',' :: value.writeBefore []) ++ [']']) := by
  rw [Value.writeBefore, writeItems, writeLaterItems_of_precedes fun value _ => precedes value,
    precedes item, List.append_assoc]

theorem writeObject_cons (member : String × Value) (later : List (String × Value)) :
    (Value.object (member :: later)).writeBefore [] =
      '\x7b' :: (writeMember member [] ++ later.flatMap (fun member => ',' :: writeMember member []) ++
        ['\x7d']) := by
  rw [Value.writeBefore, writeMembers, writeLaterMembers_of_precedes fun other _ => precedes other.2,
    writeMember_of_precedes (precedes member.2), List.append_assoc]

theorem length_le_flatMap {α : Type} {parts : List α} {part : α} (write : α → List Char) (among : part ∈ parts) :
    (write part).length ≤ (parts.flatMap write).length := by
  rw [List.flatMap_def]
  exact (List.sublist_flatten_of_mem (List.mem_map_of_mem among)).length_le

theorem length_item_lt {item : Value} {items : List Value} (member : item ∈ items) :
    (item.writeBefore []).length < ((Value.list items).writeBefore []).length := by
  obtain ⟨first, later, rfl⟩ := List.exists_cons_of_ne_nil (List.ne_nil_of_mem member)
  simp only [writeList_cons, List.length_cons, List.length_append, List.length_nil]
  rcases List.mem_cons.mp member with rfl | behind
  · omega
  · have within := length_le_flatMap (fun value : Value => ',' :: value.writeBefore []) behind
    rw [List.length_cons] at within
    omega

theorem length_member_lt {member : String × Value} (among : member ∈ members) :
    (member.2.writeBefore []).length < ((Value.object members).writeBefore []).length := by
  have own : (member.2.writeBefore []).length < (writeMember member []).length := by
    rw [writeMember, writeText]
    simp only [List.length_cons, List.length_append]
    omega
  obtain ⟨first, later, rfl⟩ := List.exists_cons_of_ne_nil (List.ne_nil_of_mem among)
  simp only [writeObject_cons, List.length_cons, List.length_append, List.length_nil]
  rcases List.mem_cons.mp among with rfl | behind
  · omega
  · have within := length_le_flatMap (fun other => ',' :: writeMember other []) behind
    rw [List.length_cons] at within
    omega

/-! Control characters -/

section members

variable {α : Type} {reader : Reader α} {written : List Char → List Char} {value : α} {first : Bool}

theorem readPairs_close (first : Bool) (rest : List Char) :
    readPairs reader first ('\x7d' :: rest) = .ok ([], rest) := by
  have next : nextKey first ('\x7d' :: rest) = .ok (false, rest) := rfl
  rw [readPairs]
  split <;> rename_i other <;> cases next.symm.trans other
  rfl

theorem readPairs_pair {key : String} {text rest : List Char} (takes : reader.Takes written value)
    (next : nextKey first text =
      .ok (true, key.toList.flatMap escaped ++ '"' :: ':' :: written rest)) :
    readPairs reader first text =
      (readPairs reader false rest).map fun (pairs, later) => ((key, value) :: pairs, later) := by
  have name := scanString_written key.toList (':' :: written rest)
  have one : readValue reader (':' :: written rest) = .ok (value, rest) :=
    readValue_written takes gap_nil rest
  rw [readPairs]
  split <;> rename_i other <;> cases next.symm.trans other
  split <;> rename_i other <;> cases name.symm.trans other
  split <;> rename_i other <;> cases one.symm.trans other
  rw [String.ofList_toList]
  cases readPairs reader false rest <;> rfl

end members

variable {reader : Reader Value}

theorem readItems_writeLaterItems (each : ∀ value ∈ values, reader.Takes value.writeBefore value)
    (rest : List Char) :
    readItems reader false (writeLaterItems values (']' :: rest)) = .ok (values, rest) := by
  induction values with
  | nil => exact readItems_close false gap_nil rest
  | cons value later ih =>
    have takes := each value List.mem_cons_self
    have others := ih fun other member => each other (List.mem_cons_of_mem _ member)
    have next : nextItem false (',' :: value.writeBefore (writeLaterItems later (']' :: rest))) =
        .ok (true, value.writeBefore (writeLaterItems later (']' :: rest))) :=
      nextItem_later takes gap_nil _
    rw [writeLaterItems, readItems_item takes next, others]
    rfl

theorem readItems_writeItems (each : ∀ value ∈ values, reader.Takes value.writeBefore value)
    (rest : List Char) :
    readItems reader true (writeItems values (']' :: rest)) = .ok (values, rest) := by
  cases values with
  | nil => exact readItems_close true gap_nil rest
  | cons value later =>
    have takes := each value List.mem_cons_self
    have others := readItems_writeLaterItems
      (fun other member => each other (List.mem_cons_of_mem _ member)) rest
    have next : nextItem true (value.writeBefore (writeLaterItems later (']' :: rest))) =
        .ok (true, value.writeBefore (writeLaterItems later (']' :: rest))) :=
      nextItem_first takes gap_nil _
    rw [writeItems, readItems_item takes next, others]
    rfl

theorem readPairs_writeLaterMembers
    (each : ∀ member ∈ members, reader.Takes member.2.writeBefore member.2) (rest : List Char) :
    readPairs reader false (writeLaterMembers members ('\x7d' :: rest)) = .ok (members, rest) := by
  induction members with
  | nil => exact readPairs_close false rest
  | cons member later ih =>
    have takes := each member List.mem_cons_self
    have others := ih fun other among => each other (List.mem_cons_of_mem _ among)
    obtain ⟨key, value⟩ := member
    have next := nextKey_later gap_nil
      (key.toList.flatMap escaped ++ '"' :: ':' :: value.writeBefore (writeLaterMembers later ('\x7d' :: rest)))
    rw [List.nil_append] at next
    simp only [writeLaterMembers, writeMember, writeText]
    rw [readPairs_pair takes next, others]
    rfl

theorem readPairs_writeMembers
    (each : ∀ member ∈ members, reader.Takes member.2.writeBefore member.2) (rest : List Char) :
    readPairs reader true (writeMembers members ('\x7d' :: rest)) = .ok (members, rest) := by
  cases members with
  | nil => exact readPairs_close true rest
  | cons member later =>
    have takes := each member List.mem_cons_self
    have others := readPairs_writeLaterMembers
      (fun other among => each other (List.mem_cons_of_mem _ among)) rest
    obtain ⟨key, value⟩ := member
    have next := nextKey_first gap_nil
      (key.toList.flatMap escaped ++ '"' :: ':' :: value.writeBefore (writeLaterMembers later ('\x7d' :: rest)))
    rw [List.nil_append] at next
    simp only [writeMembers, writeMember, writeText]
    rw [readPairs_pair takes next, others]
    rfl

theorem length_writeBefore_pos (value : Value) (rest : List Char) : 0 < (value.writeBefore rest).length := by
  cases value <;> simp [Value.writeBefore, writeText]

/-- A value is taken by every reader that goes deep enough. -/
theorem takes_any (value : Value) (depth : Nat) (deep : (value.writeBefore []).length ≤ depth) :
    (Reader.any depth).Takes value.writeBefore value := by
  induction value using Value.induction generalizing depth with
  | text value =>
    obtain ⟨depth, rfl⟩ := Nat.exists_eq_add_one.mpr (Nat.lt_of_lt_of_le (length_writeBefore_pos _ _) deep)
    refine ⟨fun rest => ⟨_, _, rfl, .inl rfl⟩, fun gap rest blank => ?_⟩
    change readAny (Reader.any depth) (gap ++ writeText value rest) = _
    rw [readAny, writeText, dropSpace_gap blank (by decide)]
    simp only [scanString_written, String.ofList_toList]
  | list items each =>
    obtain ⟨depth, rfl⟩ := Nat.exists_eq_add_one.mpr (Nat.lt_of_lt_of_le (length_writeBefore_pos _ _) deep)
    have takes : ∀ item ∈ items, (Reader.any depth).Takes item.writeBefore item := fun item member =>
      each item member depth (by have shorter := length_item_lt member; omega)
    refine ⟨fun rest => ⟨_, _, rfl, .inr (.inl rfl)⟩, fun gap rest blank => ?_⟩
    change readAny (Reader.any depth) (gap ++ '[' :: writeItems items (']' :: rest)) = _
    rw [readAny, dropSpace_gap blank (by decide)]
    simp only [readItems_writeItems takes]
  | object members each =>
    obtain ⟨depth, rfl⟩ := Nat.exists_eq_add_one.mpr (Nat.lt_of_lt_of_le (length_writeBefore_pos _ _) deep)
    have takes : ∀ member ∈ members, (Reader.any depth).Takes member.2.writeBefore member.2 :=
      fun member among =>
        each member among depth (by have shorter := length_member_lt among; omega)
    refine ⟨fun rest => ⟨_, _, rfl, .inr (.inr rfl)⟩, fun gap rest blank => ?_⟩
    change readAny (Reader.any depth) (gap ++ '\x7b' :: writeMembers members ('\x7d' :: rest)) = _
    rw [readAny, dropSpace_gap blank (by decide)]
    simp only [readPairs_writeMembers takes]

theorem parse_compact (value : Value) : parse value.compact = .ok value := by
  rw [parse, Value.compact, String.toList_ofList]
  exact (takes_any value _ (Nat.le_refl _)).whole

end SentenceSampler.Json
