import SentenceSampler.Json.Fault

/-!
The words, numbers and strings at the front of a JSON text. A scan answers with what it read and
the rest of the text, which is shorter.
-/
namespace SentenceSampler.Json

/-- The four characters that may stand between the parts of a JSON text. -/
def isSpace (c : Char) : Bool := c == ' ' || c == '\t' || c == '\n' || c == '\r'

def dropSpace (text : List Char) : List Char := text.dropWhile isSpace

/-- The rest of a word whose first letter has been read. -/
def scanWord : List Char → List Char → Except Fault (List Char)
  | [], text => .ok text
  | _ :: _, [] => .error .endInValue
  | letter :: letters, c :: rest =>
    if c = letter then scanWord letters rest else .error .expectedIdent

/-- Digits are collected as long as the number stays below `2 ^ 64`; `taken` counts them. -/
def collectDigits (value taken : Nat) : List Char → Nat × Nat × List Char
  | [] => (value, taken, [])
  | c :: rest =>
    let longer := 10 * value + (c.toNat - '0'.toNat)
    if c.isDigit ∧ longer < UInt64.size then collectDigits longer (taken + 1) rest
    else (value, taken, c :: rest)

/-- The digits of a number before its value is taken. -/
structure Literal where
  digits : Nat
  exponent : Int
  whole : Bool

/-- An exponent, after its letter. -/
def scanExponent (digits : Nat) (exponent : Int) (text : List Char) :
    Except Fault (Literal × List Char) :=
  let (negative, text) : Bool × List Char := match text with
    | '+' :: rest => (false, rest)
    | '-' :: rest => (true, rest)
    | _ => (false, text)
  match text with
  | [] => .error .endInValue
  | c :: rest =>
    if c.isDigit then
      let power := (c :: rest.takeWhile Char.isDigit).foldl
        (fun value digit => 10 * value + (digit.toNat - '0'.toNat)) 0
      .ok (⟨digits, if negative then exponent - power else exponent + power, false⟩,
        rest.dropWhile Char.isDigit)
    else .error .invalidNumber

/-- What may follow the digits of a fraction. -/
def scanAfterFraction (digits : Nat) (exponent : Int) (text : List Char) :
    Except Fault (Literal × List Char) :=
  match text with
  | 'e' :: rest => scanExponent digits exponent rest
  | 'E' :: rest => scanExponent digits exponent rest
  | _ => .ok (⟨digits, exponent, false⟩, text)

/-- A fraction, after its point. Digits that no longer fit are read and left out. -/
def scanFraction (digits : Nat) (exponent : Int) (text : List Char) :
    Except Fault (Literal × List Char) :=
  match text with
  | [] => .error .endInValue
  | c :: _ =>
    if c.isDigit then
      let (collected, taken, rest) := collectDigits digits 0 text
      scanAfterFraction collected (exponent - taken) (rest.dropWhile Char.isDigit)
    else .error .invalidNumber

/-- What may follow the whole part of a number, of which `left` digits did not fit. -/
def scanAfterWhole (digits left : Nat) (text : List Char) : Except Fault (Literal × List Char) :=
  match text with
  | '.' :: rest => scanFraction digits left rest
  | 'e' :: rest => scanExponent digits left rest
  | 'E' :: rest => scanExponent digits left rest
  | _ => .ok (⟨digits, left, left == 0⟩, text)

/-- A number without sign. A zero in front is the only digit before the point. -/
def scanLiteral (text : List Char) : Except Fault (Literal × List Char) :=
  match text with
  | [] => .error .endInValue
  | '0' :: rest =>
    if rest.head?.any Char.isDigit then .error .invalidNumber else scanAfterWhole 0 0 rest
  | c :: _ =>
    if c.isDigit then
      let (digits, _, rest) := collectDigits 0 0 text
      let more := rest.takeWhile Char.isDigit
      scanAfterWhole digits more.length (rest.dropWhile Char.isDigit)
    else .error .invalidNumber

/-- A whole number stays whole up to `2 ^ 64 - 1`, with a sign from `-2 ^ 63` to `-1`. -/
def Literal.numeral (negative : Bool) (literal : Literal) : Except Fault Numeral :=
  if literal.whole ∧ negative = false then .ok (.integer literal.digits)
  else if literal.whole ∧ 0 < literal.digits ∧ 2 * literal.digits ≤ UInt64.size then
    .ok (.integer (-literal.digits))
  else match Decimal.Binary.ofScientific literal.digits literal.exponent with
    | some magnitude => .ok (.floating negative magnitude)
    | none => .error .numberOutOfRange

/-- A number, which the text is known to start with. -/
def scanNumber (text : List Char) : Except Fault (Numeral × List Char) := do
  let (negative, text) : Bool × List Char := match text with
    | '-' :: rest => (true, rest)
    | _ => (false, text)
  let (literal, rest) ← scanLiteral text
  .ok (← literal.numeral negative, rest)

def hexDigit? (c : Char) : Option Nat :=
  if c.isDigit then some (c.toNat - '0'.toNat)
  else if 'a' ≤ c ∧ c ≤ 'f' then some (c.toNat - 'a'.toNat + 10)
  else if 'A' ≤ c ∧ c ≤ 'F' then some (c.toNat - 'A'.toNat + 10)
  else none

/-- The number of bytes of a text in UTF-8. -/
def byteLength (text : List Char) : Nat := (String.ofList text).utf8ByteSize

/-- The four bytes after `\u`, which must be hexadecimal digits. -/
def scanUnit (text : List Char) : Except Fault (Nat × List Char) :=
  match text with
  | a :: b :: c :: d :: rest =>
    match hexDigit? a, hexDigit? b, hexDigit? c, hexDigit? d with
    | some a, some b, some c, some d => .ok (((a * 16 + b) * 16 + c) * 16 + d, rest)
    | _, _, _, _ => .error .invalidEscape
  | _ => if 4 ≤ byteLength text then .error .invalidEscape else .error .endInString

def isHighSurrogate (unit : Nat) : Bool := 0xD800 ≤ unit && unit < 0xDC00

def isLowSurrogate (unit : Nat) : Bool := 0xDC00 ≤ unit && unit < 0xE000

/-- The second half of a surrogate pair, after the first. -/
def scanLowSurrogate (high : Nat) (text : List Char) : Except Fault (Char × List Char) :=
  match text with
  | [] => .error .endInString
  | ['\\'] => .error .endInString
  | '\\' :: 'u' :: rest => do
    let (low, rest) ← scanUnit rest
    if isLowSurrogate low then
      .ok (Char.ofNat ((high - 0xD800) * 0x400 + (low - 0xDC00) + 0x10000), rest)
    else .error .loneSurrogate
  | _ => .error .endOfHexEscape

/-- A character given by its code, after `\u`. -/
def scanCode (text : List Char) : Except Fault (Char × List Char) := do
  let (unit, rest) ← scanUnit text
  if isLowSurrogate unit then .error .loneSurrogate
  else if isHighSurrogate unit then scanLowSurrogate unit rest
  else .ok (Char.ofNat unit, rest)

/-- The letters that stand for a character after a backslash. -/
def escapedChar? (c : Char) : Option Char :=
  match c with
  | '"' => some '"'
  | '\\' => some '\\'
  | '/' => some '/'
  | 'b' => some '\x08'
  | 'f' => some '\x0c'
  | 'n' => some '\n'
  | 'r' => some '\r'
  | 't' => some '\t'
  | _ => none

/-- An escape, after its backslash. -/
def scanEscape (text : List Char) : Except Fault (Char × List Char) :=
  match text with
  | [] => .error .endInString
  | 'u' :: rest => scanCode rest
  | c :: rest => match escapedChar? c with
    | some value => .ok (value, rest)
    | none => .error .invalidEscape

theorem scanUnit_shortens {text rest : List Char} {unit : Nat}
    (success : scanUnit text = .ok (unit, rest)) : rest.length < text.length := by
  unfold scanUnit at success
  split at success
  · split at success
    · cases success; simp only [List.length_cons]; omega
    · cases success
  · split at success <;> cases success

theorem scanLowSurrogate_shortens {text rest : List Char} {high : Nat} {c : Char}
    (success : scanLowSurrogate high text = .ok (c, rest)) : rest.length < text.length := by
  unfold scanLowSurrogate at success
  split at success
  · cases success
  · cases success
  · rename_i later
    cases scanned : scanUnit later with
    | error fault => simp [scanned, bind, Except.bind] at success
    | ok result =>
      have shorter := scanUnit_shortens scanned
      simp only [scanned, bind, Except.bind] at success
      split at success
      · simp only [Except.ok.injEq, Prod.mk.injEq] at success
        rw [← success.2]
        simp only [List.length_cons]; omega
      · cases success
  · cases success

theorem scanCode_shortens {text rest : List Char} {c : Char}
    (success : scanCode text = .ok (c, rest)) : rest.length < text.length := by
  unfold scanCode at success
  cases scanned : scanUnit text with
  | error fault => simp [scanned, bind, Except.bind] at success
  | ok result =>
    have shorter := scanUnit_shortens scanned
    simp only [scanned, bind, Except.bind] at success
    split at success
    · cases success
    · split at success
      · have next := scanLowSurrogate_shortens success
        omega
      · simp only [Except.ok.injEq, Prod.mk.injEq] at success
        rw [← success.2]
        exact shorter

theorem scanEscape_shortens {text rest : List Char} {c : Char}
    (success : scanEscape text = .ok (c, rest)) : rest.length < text.length := by
  unfold scanEscape at success
  split at success
  · cases success
  · have next := scanCode_shortens success
    simp only [List.length_cons]; omega
  · split at success <;> cases success
    simp only [List.length_cons]; omega

/-- A string, after its opening quotation mark. -/
def scanString (text : List Char) : Except Fault (List Char × List Char) :=
  match text with
  | [] => .error .endInString
  | '"' :: rest => .ok ([], rest)
  | '\\' :: rest =>
    match _scanned : scanEscape rest with
    | .error fault => .error fault
    | .ok (c, rest) => (scanString rest).map fun (value, rest) => (c :: value, rest)
  | c :: rest =>
    if c.toNat < 0x20 then .error .controlCharacter
    else (scanString rest).map fun (value, rest) => (c :: value, rest)
termination_by text.length
decreasing_by
  · have shorter := scanEscape_shortens _scanned
    simp only [List.length_cons]; omega
  · simp

theorem scanString_shortens {text value rest : List Char}
    (success : scanString text = .ok (value, rest)) : rest.length < text.length := by
  fun_induction scanString text generalizing value rest with
  | case1 => cases success
  | case2 => cases success; simp
  | case3 => cases success
  | case4 after c later scanned ih =>
    cases inner : scanString later with
    | error fault => simp [inner, Except.map] at success
    | ok result =>
      simp only [inner, Except.map, Except.ok.injEq, Prod.mk.injEq] at success
      have shorter := ih inner
      have before := scanEscape_shortens scanned
      rw [← success.2]
      simp only [List.length_cons]; omega
  | case5 => cases success
  | case6 c later _ _ _ ih =>
    cases inner : scanString later with
    | error fault => simp [inner, Except.map] at success
    | ok result =>
      simp only [inner, Except.map, Except.ok.injEq, Prod.mk.injEq] at success
      have shorter := ih inner
      rw [← success.2]
      simp only [List.length_cons]; omega

end SentenceSampler.Json
