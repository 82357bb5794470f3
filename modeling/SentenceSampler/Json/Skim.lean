import SentenceSampler.Json.Scan

/-!
Passing over a JSON value that nobody asked for. Its form is checked to any depth, but numbers may
have any size and the halves of surrogate pairs may stand alone.
-/
namespace SentenceSampler.Json

/-- The brackets that are still open around a value. -/
inductive Frame where
  | list
  | object
deriving DecidableEq, Repr

def Frame.closing : Frame → Char
  | .list => ']'
  | .object => '\x7d'

def Frame.endFault : Frame → Fault
  | .list => .endInList
  | .object => .endInObject

def Frame.separatorFault : Frame → Fault
  | .list => .expectedCommaOrBracket
  | .object => .expectedCommaOrBrace

def skimExponent (text : List Char) : Except Fault (List Char) :=
  let text := match text with
    | '+' :: rest => rest
    | '-' :: rest => rest
    | _ => text
  if text.head?.any Char.isDigit then .ok (text.dropWhile Char.isDigit) else .error .invalidNumber

def skimAfterFraction (text : List Char) : Except Fault (List Char) :=
  match text with
  | 'e' :: rest => skimExponent rest
  | 'E' :: rest => skimExponent rest
  | _ => .ok text

def skimAfterWhole (text : List Char) : Except Fault (List Char) :=
  match text with
  | '.' :: rest =>
    if rest.head?.any Char.isDigit then skimAfterFraction (rest.dropWhile Char.isDigit)
    else .error .invalidNumber
  | _ => skimAfterFraction text

/-- A number without sign; unlike one that is read, it is invalid where the text ends too early. -/
def skimNumber (text : List Char) : Except Fault (List Char) :=
  match text with
  | '0' :: rest =>
    if rest.head?.any Char.isDigit then .error .invalidNumber else skimAfterWhole rest
  | c :: rest =>
    if c.isDigit then skimAfterWhole (rest.dropWhile Char.isDigit) else .error .invalidNumber
  | [] => .error .invalidNumber

/-- A string, after its opening quotation mark. -/
def skimString (text : List Char) : Except Fault (List Char) :=
  match text with
  | [] => .error .endInString
  | '"' :: rest => .ok rest
  | ['\\'] => .error .endInString
  | '\\' :: 'u' :: rest =>
    match _scanned : scanUnit rest with
    | .error fault => .error fault
    | .ok (_, rest) => skimString rest
  | '\\' :: c :: rest =>
    if (escapedChar? c).isSome then skimString rest else .error .invalidEscape
  | c :: rest => if c.toNat < 0x20 then .error .controlCharacter else skimString rest
termination_by text.length
decreasing_by
  · have shorter := scanUnit_shortens _scanned
    simp only [List.length_cons]; omega
  · simp only [List.length_cons]; omega
  · simp

/-- What is passed over next: a value, what follows a complete value, what follows an opening
bracket, or a key. -/
inductive Phase where
  | value
  | after
  | opened
  | key
deriving DecidableEq, Repr

/-- The text behind the colon between a key and its value. -/
def scanColon (text : List Char) : Except Fault (List Char) :=
  match dropSpace text with
  | [] => .error .endInObject
  | ':' :: rest => .ok rest
  | _ => .error .expectedColon

/-- What is read behind blanks, from the character that stands there on. -/
def behindSpace {α : Type} (missing : Fault) (scan : Char → List Char → Except Fault α)
    (text : List Char) : Except Fault α :=
  match dropSpace text with
  | [] => .error missing
  | c :: rest => scan c rest

/-- The text behind a word, a string or a number. -/
def skimSimple (c : Char) (rest : List Char) : Except Fault (List Char) :=
  match c with
  | 'n' => scanWord ['u', 'l', 'l'] rest
  | 't' => scanWord ['r', 'u', 'e'] rest
  | 'f' => scanWord ['a', 'l', 's', 'e'] rest
  | '"' => skimString rest
  | '-' => skimNumber rest
  | c => if c.isDigit then skimNumber (c :: rest) else .error .expectedValue

/-- The open brackets, innermost first, and the phase after a part; `none` at the end of the value. -/
abbrev Stage := Option (List Frame × Phase)

def skimValue (frames : List Frame) (c : Char) (rest : List Char) : Except Fault (Stage × List Char) :=
  match c with
  | '[' => .ok (some (.list :: frames, .opened), rest)
  | '\x7b' => .ok (some (.object :: frames, .opened), rest)
  | c => (skimSimple c rest).map fun rest => (some (frames, .after), rest)

/-- The phase of the next item or member. -/
def Frame.inside : Frame → Phase
  | .list => .value
  | .object => .key

def skimAfter (frame : Frame) (outer : List Frame) (c : Char) (rest : List Char) :
    Except Fault (Stage × List Char) :=
  if c = ',' then .ok (some (frame :: outer, frame.inside), rest)
  else if c = frame.closing then .ok (some (outer, .after), rest)
  else .error frame.separatorFault

def skimOpened (frame : Frame) (outer : List Frame) (c : Char) (rest : List Char) :
    Except Fault (Stage × List Char) :=
  if c = frame.closing then .ok (some (outer, .after), rest)
  else .ok (some (frame :: outer, frame.inside), c :: rest)

def skimKey (frames : List Frame) (c : Char) (rest : List Char) : Except Fault (Stage × List Char) :=
  if c = '"' then
    match skimString rest with
    | .error fault => .error fault
    | .ok rest => (scanColon rest).map fun rest => (some (frames, .value), rest)
  else .error .keyMustBeString

/-- One part of the skipped value, in the phase that the part before it has led to. -/
def skimPart (frames : List Frame) (phase : Phase) (text : List Char) :
    Except Fault (Stage × List Char) :=
  match phase, frames with
  | .value, _ => behindSpace .endInValue (skimValue frames) text
  | _, [] => .ok (none, text)
  | .after, frame :: outer => behindSpace frame.endFault (skimAfter frame outer) text
  | .opened, frame :: outer => behindSpace frame.endFault (skimOpened frame outer) text
  | .key, _ => behindSpace .endInObject (skimKey frames) text

/-- Part after part until the value ends. Each part but the look behind an opening bracket takes at
least one character, so `2 * text.length` parts are enough. -/
def skimParts (frames : List Frame) (phase : Phase) (text : List Char) :
    Nat → Except Fault (List Char)
  | 0 => .ok text
  | parts + 1 =>
    match skimPart frames phase text with
    | .error fault => .error fault
    | .ok (none, rest) => .ok rest
    | .ok (some (frames, phase), rest) => skimParts frames phase rest parts

/-- The text behind the value it starts with. -/
def skim (text : List Char) : Except Fault (List Char) :=
  skimParts [] .value text (2 * text.length + 2)

/-! What a part leaves is never longer than what it was given. -/

theorem length_dropWhile_le (keep : Char → Bool) (text : List Char) :
    (text.dropWhile keep).length ≤ text.length :=
  (List.dropWhile_suffix keep).length_le

theorem length_dropSpace_le (text : List Char) : (dropSpace text).length ≤ text.length :=
  length_dropWhile_le isSpace text

theorem scanWord_length_le {letters text rest : List Char}
    (success : scanWord letters text = .ok rest) : rest.length ≤ text.length := by
  fun_induction scanWord letters text with
  | case1 => cases success; exact Nat.le_refl _
  | case2 => cases success
  | case3 letters c later ih =>
    have shorter := ih success
    simp only [List.length_cons]; omega
  | case4 => cases success

theorem scanColon_length_le {text rest : List Char} (success : scanColon text = .ok rest) :
    rest.length ≤ text.length := by
  have spaced := length_dropSpace_le text
  unfold scanColon at success
  split at success
  · cases success
  · rename_i same
    cases success
    rw [same, List.length_cons] at spaced
    omega
  · cases success

theorem skimExponent_length_le {text rest : List Char}
    (success : skimExponent text = .ok rest) : rest.length ≤ text.length := by
  unfold skimExponent at success
  simp only at success
  split at success <;> split at success <;> cases success
  all_goals
    refine Nat.le_trans (length_dropWhile_le _ _) ?_
    simp

theorem skimAfterFraction_length_le {text rest : List Char}
    (success : skimAfterFraction text = .ok rest) : rest.length ≤ text.length := by
  unfold skimAfterFraction at success
  split at success
  · have shorter := skimExponent_length_le success
    simp only [List.length_cons]; omega
  · have shorter := skimExponent_length_le success
    simp only [List.length_cons]; omega
  · cases success; exact Nat.le_refl _

theorem skimAfterWhole_length_le {text rest : List Char}
    (success : skimAfterWhole text = .ok rest) : rest.length ≤ text.length := by
  unfold skimAfterWhole at success
  split at success
  · split at success
    · have shorter := skimAfterFraction_length_le success
      have dropped := length_dropWhile_le Char.isDigit ‹List Char›
      simp only [List.length_cons]; omega
    · cases success
  · exact skimAfterFraction_length_le success

theorem skimNumber_length_le {text rest : List Char}
    (success : skimNumber text = .ok rest) : rest.length ≤ text.length := by
  unfold skimNumber at success
  split at success
  · split at success
    · cases success
    · have shorter := skimAfterWhole_length_le success
      simp only [List.length_cons]; omega
  · rename_i later _
    split at success
    · have shorter := skimAfterWhole_length_le success
      have dropped := length_dropWhile_le Char.isDigit later
      simp only [List.length_cons]; omega
    · cases success
  · cases success

theorem skimString_length_le {text rest : List Char}
    (success : skimString text = .ok rest) : rest.length ≤ text.length := by
  fun_induction skimString text with
  | case1 => cases success
  | case2 => cases success; simp
  | case3 => cases success
  | case4 => cases success
  | case5 later unit after scanned ih =>
    have shorter := ih success
    have before := scanUnit_shortens scanned
    simp only [List.length_cons]; omega
  | case6 c later _ _ ih =>
    have shorter := ih success
    simp only [List.length_cons]; omega
  | case7 => cases success
  | case8 => cases success
  | case9 c later _ _ _ _ _ ih =>
    have shorter := ih success
    simp only [List.length_cons]; omega

/-! The parts. Each scans behind blanks, and what it leaves is no longer than the text from there on. -/

theorem behindSpace_length_le {missing : Fault} {scan : Char → List Char → Except Fault (Stage × List Char)}
    {text rest : List Char} {stage : Stage}
    (keeps : ∀ {c later}, scan c later = .ok (stage, rest) → rest.length ≤ later.length + 1)
    (success : behindSpace missing scan text = .ok (stage, rest)) : rest.length ≤ text.length := by
  have spaced := length_dropSpace_le text
  unfold behindSpace at success
  split at success
  · cases success
  · rename_i same
    rw [same, List.length_cons] at spaced
    exact Nat.le_trans (keeps success) spaced

theorem map_length_le {scanned : Except Fault (List Char)} {next stage : Stage} {rest : List Char} {bound : Nat}
    (keeps : ∀ {later}, scanned = .ok later → later.length ≤ bound)
    (success : (scanned.map fun rest => (next, rest)) = .ok (stage, rest)) : rest.length ≤ bound := by
  cases scanned with
  | error fault => cases success
  | ok later =>
    cases success
    exact keeps rfl

section parts

variable {frame : Frame} {frames outer : List Frame} {c : Char} {text rest : List Char} {stage : Stage}

theorem skimSimple_length_le (success : skimSimple c text = .ok rest) : rest.length ≤ text.length + 1 := by
  unfold skimSimple at success
  split at success
  case h_4 => exact Nat.le_succ_of_le (skimString_length_le success)
  case h_5 => exact Nat.le_succ_of_le (skimNumber_length_le success)
  case h_6 =>
    split at success
    · exact skimNumber_length_le success
    · cases success
  -- the three words
  all_goals exact Nat.le_succ_of_le (scanWord_length_le success)

theorem skimValue_length_le (success : skimValue frames c text = .ok (stage, rest)) :
    rest.length ≤ text.length + 1 := by
  unfold skimValue at success
  split at success
  · cases success
    exact Nat.le_succ _
  · cases success
    exact Nat.le_succ _
  · exact map_length_le skimSimple_length_le success

theorem skimAfter_length_le (success : skimAfter frame outer c text = .ok (stage, rest)) :
    rest.length ≤ text.length + 1 := by
  unfold skimAfter at success
  split at success
  · cases success
    exact Nat.le_succ _
  · split at success <;> cases success
    exact Nat.le_succ _

theorem skimOpened_length_le (success : skimOpened frame outer c text = .ok (stage, rest)) :
    rest.length ≤ text.length + 1 := by
  unfold skimOpened at success
  split at success <;> cases success
  · exact Nat.le_succ _
  · exact Nat.le_refl _

theorem skimKey_length_le (success : skimKey frames c text = .ok (stage, rest)) :
    rest.length ≤ text.length + 1 := by
  unfold skimKey at success
  split at success
  · split at success
    · cases success
    · rename_i named
      have behind := map_length_le scanColon_length_le success
      exact Nat.le_succ_of_le (Nat.le_trans behind (skimString_length_le named))
  · cases success

theorem skimPart_length_le {phase : Phase} (success : skimPart frames phase text = .ok (stage, rest)) :
    rest.length ≤ text.length := by
  unfold skimPart at success
  split at success
  · exact behindSpace_length_le skimValue_length_le success
  · cases success
    exact Nat.le_refl _
  · exact behindSpace_length_le skimAfter_length_le success
  · exact behindSpace_length_le skimOpened_length_le success
  · exact behindSpace_length_le skimKey_length_le success

end parts

theorem skimParts_length_le {frames : List Frame} {phase : Phase} {text rest : List Char}
    {parts : Nat} (success : skimParts frames phase text parts = .ok rest) :
    rest.length ≤ text.length := by
  induction parts generalizing frames phase text with
  | zero => cases success; exact Nat.le_refl _
  | succ parts ih =>
    unfold skimParts at success
    split at success
    · cases success
    · rename_i part
      cases success
      exact skimPart_length_le part
    · rename_i part
      exact Nat.le_trans (ih success) (skimPart_length_le part)

theorem skim_length_le {text rest : List Char} (success : skim text = .ok rest) :
    rest.length ≤ text.length :=
  skimParts_length_le success

end SentenceSampler.Json
