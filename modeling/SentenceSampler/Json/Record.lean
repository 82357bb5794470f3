import SentenceSampler.Json.Reader

/-!
Readers of records with two fields. A record is written as an object, its keys in any order and
unknown keys passed over, or as a list of exactly its fields in order.
-/
namespace SentenceSampler.Json

/-- A field of a record; `absent` is its value where it is left out, if it may be. -/
structure Field (α : Type) where
  key : String
  reader : Reader α
  absent : Option α

/-- Whether an object goes on, after its opening brace or after a member, with the text from the
inside of the next key or behind the closing brace. -/
def nextKey (first : Bool) (text : List Char) : Except Fault (Bool × List Char) :=
  match dropSpace text with
  | [] => .error .endInObject
  | c :: rest =>
    if c = '\x7d' then .ok (false, rest)
    else if first then
      if c = '"' then .ok (true, rest) else .error .keyMustBeString
    else if c = ',' then
      match dropSpace rest with
      | [] => .error .endInValue
      | next :: later =>
        if next = '"' then .ok (true, later)
        else if next = '\x7d' then .error .trailingComma
        else .error .keyMustBeString
    else .error .expectedCommaOrBrace

theorem nextKey_shortens {first more : Bool} {text rest : List Char}
    (success : nextKey first text = .ok (more, rest)) : rest.length < text.length := by
  have spaced := length_dropSpace_le text
  unfold nextKey at success
  split at success
  · cases success
  · rename_i later same
    rw [same, List.length_cons] at spaced
    split at success
    · cases success; omega
    · split at success
      · split at success <;> cases success
        omega
      · split at success
        · split at success
          · cases success
          · rename_i after
            have again := length_dropSpace_le later
            rw [after, List.length_cons] at again
            split at success
            · cases success; omega
            · split at success <;> cases success
        · cases success

/-- The value behind a key. -/
def readValue {α : Type} (reader : Reader α) (text : List Char) : Except Fault (α × List Char) :=
  match scanColon text with
  | .error fault => .error fault
  | .ok rest => reader.read rest

theorem readValue_length_le {α : Type} {reader : Reader α} {text rest : List Char} {value : α}
    (success : readValue reader text = .ok (value, rest)) : rest.length ≤ text.length := by
  unfold readValue at success
  split at success
  · cases success
  · rename_i colon
    have before := scanColon_length_le colon
    have shorter := reader.shortens success
    omega

/-- One member of an object, after its key: the values found so far with the new one. A key that
came before is refused before its value is looked at. -/
def readMember {α β : Type} (first : Field α) (second : Field β) (found : Option α × Option β)
    (key : String) (text : List Char) : Except Fault ((Option α × Option β) × List Char) :=
  if key = first.key then
    if found.1.isSome then .error (.duplicateField key)
    else match readValue first.reader text with
      | .error fault => .error fault
      | .ok (value, rest) => .ok ((some value, found.2), rest)
  else if key = second.key then
    if found.2.isSome then .error (.duplicateField key)
    else match readValue second.reader text with
      | .error fault => .error fault
      | .ok (value, rest) => .ok ((found.1, some value), rest)
  else match scanColon text with
    | .error fault => .error fault
    | .ok rest => match skim rest with
      | .error fault => .error fault
      | .ok rest => .ok (found, rest)

theorem readMember_length_le {α β : Type} {first : Field α} {second : Field β}
    {found after : Option α × Option β} {key : String} {text rest : List Char}
    (success : readMember first second found key text = .ok (after, rest)) :
    rest.length ≤ text.length := by
  unfold readMember at success
  split at success
  · split at success
    · cases success
    · split at success
      · cases success
      · rename_i result
        cases success
        exact readValue_length_le result
  · split at success
    · split at success
      · cases success
      · split at success
        · cases success
        · rename_i result
          cases success
          exact readValue_length_le result
    · split at success
      · cases success
      · rename_i colon
        split at success
        · cases success
        · rename_i skimmed
          cases success
          exact Nat.le_trans (skim_length_le skimmed) (scanColon_length_le colon)

/-- The members of an object from the next one on. -/
def readMembers {α β : Type} (first : Field α) (second : Field β) (start : Bool)
    (found : Option α × Option β) (text : List Char) :
    Except Fault ((Option α × Option β) × List Char) :=
  match _next : nextKey start text with
  | .error fault => .error fault
  | .ok (false, rest) => .ok (found, rest)
  | .ok (true, inside) =>
    match _name : scanString inside with
    | .error fault => .error fault
    | .ok (key, rest) =>
      match _one : readMember first second found (String.ofList key) rest with
      | .error fault => .error fault
      | .ok (found, rest) => readMembers first second false found rest
termination_by text.length
decreasing_by
  have opened := nextKey_shortens _next
  have named := scanString_shortens _name
  have shorter := readMember_length_le _one
  omega

theorem readMembers_length_le {α β : Type} {first : Field α} {second : Field β} {start : Bool}
    {found after : Option α × Option β} {text rest : List Char}
    (success : readMembers first second start found text = .ok (after, rest)) :
    rest.length ≤ text.length := by
  fun_induction readMembers first second start found text with
  | case1 => cases success
  | case2 start found text later next =>
    cases success
    have shorter := nextKey_shortens next
    omega
  | case3 => cases success
  | case4 => cases success
  | case5 start found text inside next key later name found last one ih =>
    have before := ih success
    have opened := nextKey_shortens next
    have named := scanString_shortens name
    have shorter := readMember_length_le one
    omega

/-- The value of a field, or the one it has where it is left out. -/
def Field.require {α : Type} (field : Field α) (found : Option α) : Except Fault α :=
  match found.or field.absent with
  | some value => .ok value
  | none => .error (.missingField field.key)

/-- An element of a record that is written as a list, `count` elements after its start. -/
def readElement {α : Type} (field : Field α) (expected : String) (count : Nat)
    (text : List Char) : Except Fault (α × List Char) :=
  match nextItem (count == 0) text with
  | .error fault => .error fault
  | .ok (true, start) => field.reader.read start
  | .ok (false, rest) => match field.absent with
    | some value => .ok (value, rest)
    | none => .error (.wrongLength count expected)

theorem readElement_length_le {α : Type} {field : Field α} {expected : String} {count : Nat}
    {text rest : List Char} {value : α}
    (success : readElement field expected count text = .ok (value, rest)) :
    rest.length ≤ text.length := by
  unfold readElement at success
  split at success
  · cases success
  · rename_i next
    have before := nextItem_length_le next
    have shorter := field.reader.shortens success
    omega
  · rename_i next
    split at success <;> cases success
    exact nextItem_length_le next

/-- The closing bracket of a record that is written as a list. -/
def closeList (text : List Char) : Except Fault (List Char) :=
  match dropSpace text with
  | [] => .error .endInList
  | ']' :: rest => .ok rest
  | ',' :: rest =>
    .error (if (dropSpace rest).head? = some ']' then .trailingComma else .trailingCharacters)
  | _ => .error .trailingCharacters

theorem closeList_length_le {text rest : List Char} (success : closeList text = .ok rest) :
    rest.length ≤ text.length := by
  have spaced := length_dropSpace_le text
  unfold closeList at success
  split at success
  · cases success
  · rename_i same
    cases success
    rw [same, List.length_cons] at spaced
    omega
  · cases success
  · cases success

/-- A record as a list, after its opening bracket. -/
def readElements {α β : Type} (first : Field α) (second : Field β) (expected : String)
    (text : List Char) : Except Fault ((α × β) × List Char) := do
  let (left, rest) ← readElement first expected 0 text
  let (right, rest) ← readElement second expected 1 rest
  .ok ((left, right), ← closeList rest)

/-- A record as an object, after its opening brace. Missing fields are told in order. -/
def readObject {α β : Type} (first : Field α) (second : Field β) (text : List Char) :
    Except Fault ((α × β) × List Char) := do
  let (found, rest) ← readMembers first second true (none, none) text
  .ok ((← first.require found.1, ← second.require found.2), rest)

def readRecord {α β : Type} (name : String) (first : Field α) (second : Field β)
    (text : List Char) : Except Fault ((α × β) × List Char) :=
  match dropSpace text with
  | [] => .error .endInValue
  | '[' :: rest => readElements first second (name ++ " with 2 elements") rest
  | '\x7b' :: rest => readObject first second rest
  | other => .error (mismatch name other)

theorem readElements_length_le {α β : Type} {first : Field α} {second : Field β}
    {expected : String} {text rest : List Char} {value : α × β}
    (success : readElements first second expected text = .ok (value, rest)) :
    rest.length ≤ text.length := by
  unfold readElements at success
  cases one : readElement first expected 0 text with
  | error fault => simp [one, bind, Except.bind] at success
  | ok left =>
    cases two : readElement second expected 1 left.2 with
    | error fault => simp [one, two, bind, Except.bind] at success
    | ok right =>
      cases closed : closeList right.2 with
      | error fault => simp [one, two, closed, bind, Except.bind] at success
      | ok last =>
        simp only [one, two, closed, bind, Except.bind, Except.ok.injEq, Prod.mk.injEq] at success
        have a := readElement_length_le one
        have b := readElement_length_le two
        have c := closeList_length_le closed
        rw [← success.2]
        omega

theorem readObject_length_le {α β : Type} {first : Field α} {second : Field β}
    {text rest : List Char} {value : α × β}
    (success : readObject first second text = .ok (value, rest)) : rest.length ≤ text.length := by
  unfold readObject at success
  cases members : readMembers first second true (none, none) text with
  | error fault => simp [members, bind, Except.bind] at success
  | ok result =>
    cases left : first.require result.1.1 with
    | error fault => simp [members, left, bind, Except.bind] at success
    | ok one =>
      cases right : second.require result.1.2 with
      | error fault => simp [members, left, right, bind, Except.bind] at success
      | ok two =>
        simp only [members, left, right, bind, Except.bind, Except.ok.injEq,
          Prod.mk.injEq] at success
        rw [← success.2]
        exact readMembers_length_le members

theorem readRecord_shortens {α β : Type} {name : String} {first : Field α} {second : Field β}
    {text rest : List Char} {value : α × β}
    (success : readRecord name first second text = .ok (value, rest)) :
    rest.length < text.length := by
  have spaced := length_dropSpace_le text
  unfold readRecord at success
  split at success
  · cases success
  · rename_i same
    rw [same, List.length_cons] at spaced
    have shorter := readElements_length_le success
    omega
  · rename_i same
    rw [same, List.length_cons] at spaced
    have shorter := readObject_length_le success
    omega
  · cases success

def Reader.record {α β : Type} (name : String) (first : Field α) (second : Field β) :
    Reader (α × β) :=
  ⟨readRecord name first second, readRecord_shortens⟩

end SentenceSampler.Json
