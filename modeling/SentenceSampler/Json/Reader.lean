import SentenceSampler.Json.Skim

/-!
Readers of JSON values with an expected form. A text is read once, from left to right, and the
first thing wrong with it is the fault.
-/
namespace SentenceSampler.Json

/-- A reader takes one value off the front of a text and so always leaves less of it. -/
structure Reader (α : Type) where
  read : List Char → Except Fault (α × List Char)
  shortens : ∀ {text : List Char} {value : α} {rest : List Char},
    read text = .ok (value, rest) → rest.length < text.length

/-- What a value that is neither blank nor of the expected form is refused with. A number, word or
string is read to its end first, a list or an object is refused at its bracket. -/
def mismatch (expected : String) (text : List Char) : Fault :=
  let refuse (found : Found) : Fault := .wrongType found expected
  match text with
  | 'n' :: rest => match scanWord ['u', 'l', 'l'] rest with
    | .error fault => fault
    | .ok _ => refuse .null
  | 't' :: rest => match scanWord ['r', 'u', 'e'] rest with
    | .error fault => fault
    | .ok _ => refuse (.boolean true)
  | 'f' :: rest => match scanWord ['a', 'l', 's', 'e'] rest with
    | .error fault => fault
    | .ok _ => refuse (.boolean false)
  | '"' :: rest => match scanString rest with
    | .error fault => fault
    | .ok (value, _) => refuse (.text (String.ofList value))
  | '[' :: _ => refuse .sequence
  | '\x7b' :: _ => refuse .map
  | c :: _ =>
    if c = '-' ∨ c.isDigit then
      match scanNumber text with
      | .error fault => fault
      | .ok (numeral, _) => refuse (.number numeral)
    else .expectedValue
  | [] => .endInValue

/-- The value that is made of the one read. -/
def Reader.map {α β : Type} (make : α → β) (reader : Reader α) : Reader β where
  read text := match reader.read text with
    | .error fault => .error fault
    | .ok (value, rest) => .ok (make value, rest)
  shortens := by
    intro text value rest success
    split at success
    · cases success
    · rename_i result
      cases success
      exact reader.shortens result

/-! Texts -/

def readText (text : List Char) : Except Fault (String × List Char) :=
  match dropSpace text with
  | [] => .error .endInValue
  | '"' :: rest => match scanString rest with
    | .error fault => .error fault
    | .ok (value, rest) => .ok (String.ofList value, rest)
  | other => .error (mismatch "a string" other)

theorem readText_shortens {text rest : List Char} {value : String}
    (success : readText text = .ok (value, rest)) : rest.length < text.length := by
  have spaced := length_dropSpace_le text
  unfold readText at success
  split at success
  · cases success
  · rename_i same
    rw [same, List.length_cons] at spaced
    split at success
    · cases success
    · rename_i scanned
      cases success
      have shorter := scanString_shortens scanned
      omega
  · cases success

def Reader.text : Reader String := ⟨readText, readText_shortens⟩

/-! Values that may be `null` -/

def readOptional {α : Type} (reader : Reader α) (text : List Char) :
    Except Fault (Option α × List Char) :=
  match dropSpace text with
  | 'n' :: rest => match scanWord ['u', 'l', 'l'] rest with
    | .error fault => .error fault
    | .ok rest => .ok (none, rest)
  | other => match reader.read other with
    | .error fault => .error fault
    | .ok (value, rest) => .ok (some value, rest)

theorem readOptional_shortens {α : Type} {reader : Reader α} {text rest : List Char}
    {value : Option α} (success : readOptional reader text = .ok (value, rest)) :
    rest.length < text.length := by
  have spaced := length_dropSpace_le text
  unfold readOptional at success
  split at success
  · rename_i same
    rw [same, List.length_cons] at spaced
    split at success
    · cases success
    · rename_i scanned
      cases success
      have shorter := scanWord_length_le scanned
      omega
  · split at success
    · cases success
    · rename_i result
      cases success
      have shorter := reader.shortens result
      omega

def Reader.optional {α : Type} (reader : Reader α) : Reader (Option α) :=
  ⟨readOptional reader, readOptional_shortens⟩

/-! Lists -/

/-- Whether a list goes on, after its opening bracket or after an item, with the text from the next
item or from the closing bracket. -/
def nextItem (first : Bool) (text : List Char) : Except Fault (Bool × List Char) :=
  match dropSpace text with
  | [] => .error .endInList
  | c :: rest =>
    if c = ']' then .ok (false, c :: rest)
    else if first then .ok (true, c :: rest)
    else if c = ',' then
      match dropSpace rest with
      | [] => .error .endInValue
      | next :: later =>
        if next = ']' then .error .trailingComma else .ok (true, next :: later)
    else .error .expectedCommaOrBracket

theorem nextItem_length_le {first more : Bool} {text rest : List Char}
    (success : nextItem first text = .ok (more, rest)) : rest.length ≤ text.length := by
  have spaced := length_dropSpace_le text
  unfold nextItem at success
  split at success
  · cases success
  · rename_i later same
    rw [same] at spaced
    split at success
    · cases success; exact spaced
    · split at success
      · cases success; exact spaced
      · split at success
        · split at success
          · cases success
          · rename_i after
            have again := length_dropSpace_le later
            split at success <;> cases success
            rw [after] at again
            rw [List.length_cons] at spaced
            omega
        · cases success

/-- The items of a list from the next one on, and the text behind its closing bracket. -/
def readItems {α : Type} (item : Reader α) (first : Bool) (text : List Char) :
    Except Fault (List α × List Char) :=
  match _next : nextItem first text with
  | .error fault => .error fault
  | .ok (false, rest) => .ok ([], rest.drop 1)
  | .ok (true, start) =>
    match _one : item.read start with
    | .error fault => .error fault
    | .ok (value, rest) => match readItems item false rest with
      | .error fault => .error fault
      | .ok (values, rest) => .ok (value :: values, rest)
termination_by text.length
decreasing_by
  have before := nextItem_length_le _next
  have shorter := item.shortens _one
  omega

theorem readItems_length_le {α : Type} {item : Reader α} {first : Bool} {text rest : List Char}
    {values : List α} (success : readItems item first text = .ok (values, rest)) :
    rest.length ≤ text.length := by
  fun_induction readItems item first text generalizing values rest with
  | case1 => cases success
  | case2 first text later next =>
    cases success
    have before := nextItem_length_le next
    simp only [List.length_drop]; omega
  | case3 => cases success
  | case4 => cases success
  | case5 first text start next value later one values after result ih =>
    cases success
    have before := nextItem_length_le next
    have shorter := item.shortens one
    have last := ih result
    omega

def readList {α : Type} (item : Reader α) (text : List Char) : Except Fault (List α × List Char) :=
  match dropSpace text with
  | [] => .error .endInValue
  | '[' :: rest => readItems item true rest
  | other => .error (mismatch "a sequence" other)

theorem readList_shortens {α : Type} {item : Reader α} {text rest : List Char} {values : List α}
    (success : readList item text = .ok (values, rest)) : rest.length < text.length := by
  have spaced := length_dropSpace_le text
  unfold readList at success
  split at success
  · cases success
  · rename_i same
    rw [same, List.length_cons] at spaced
    have shorter := readItems_length_le success
    omega
  · cases success

def Reader.list {α : Type} (item : Reader α) : Reader (List α) :=
  ⟨readList item, readList_shortens⟩

/-- A whole text holds one value and blanks around it. -/
def Reader.whole {α : Type} (reader : Reader α) (text : List Char) : Except Fault α :=
  match reader.read text with
  | .error fault => .error fault
  | .ok (value, rest) =>
    if (dropSpace rest).isEmpty then .ok value else .error .trailingCharacters

end SentenceSampler.Json
