import SentenceSampler.Json.Scan
import SentenceSampler.Json.Value

/-!
Written texts that are scanned. Main statement: behind its opening quotation mark a text is scanned to
its closing one, whichever characters it holds.
-/
namespace SentenceSampler.Json

/-! Escapes -/

theorem hexDigit?_digitChar : ∀ digit < 16, hexDigit? (Nat.digitChar digit) = some digit := by
  decide

/-- Two digits are enough for a control character. -/
theorem scanCode_control {c : Char} (control : c.toNat < 0x20) (rest : List Char) :
    scanCode ('0' :: '0' :: Nat.digitChar (c.toNat / 16) :: Nat.digitChar (c.toNat % 16) :: rest) =
      .ok (c, rest) := by
  have high := hexDigit?_digitChar (c.toNat / 16) (by omega)
  have low := hexDigit?_digitChar (c.toNat % 16) (by omega)
  have zero : hexDigit? '0' = some 0 := by decide
  have code : ((0 * 16 + 0) * 16 + c.toNat / 16) * 16 + c.toNat % 16 = c.toNat := by omega
  have unit : scanUnit ('0' :: '0' :: Nat.digitChar (c.toNat / 16) ::
      Nat.digitChar (c.toNat % 16) :: rest) = .ok (c.toNat, rest) := by
    simp only [scanUnit, high, low, zero, code]
  have notLow : isLowSurrogate c.toNat = false := by
    simp only [isLowSurrogate, Bool.and_eq_false_iff, decide_eq_false_iff_not]
    omega
  have notHigh : isHighSurrogate c.toNat = false := by
    simp only [isHighSurrogate, Bool.and_eq_false_iff, decide_eq_false_iff_not]
    omega
  simp only [scanCode, unit, bind, Except.bind, notLow, notHigh, Char.ofNat_toNat]
  rfl

/-! Strings -/

theorem scanString_escape {c : Char} {text rest : List Char} (scanned : scanEscape text = .ok (c, rest)) :
    scanString ('\\' :: text) = (scanString rest).map fun (value, later) => (c :: value, later) := by
  rw [scanString]
  split
  · rename_i failed
    cases scanned.symm.trans failed
  · rename_i found
    cases scanned.symm.trans found
    rfl

theorem scanString_plain {c : Char} (quotation : c ≠ '"') (backslash : c ≠ '\\')
    (printed : ¬ c.toNat < 0x20) (rest : List Char) :
    scanString (c :: rest) = (scanString rest).map fun (value, later) => (c :: value, later) := by
  rw [scanString]
  · exact if_neg printed
  · exact quotation
  · exact backslash

theorem scanString_escaped (c : Char) (rest : List Char) :
    scanString (escaped c ++ rest) =
      (scanString rest).map fun (value, later) => (c :: value, later) := by
  unfold escaped
  split
  case h_8 quotation backslash _ _ _ _ _ =>
    split
    · rename_i control
      exact scanString_escape (scanCode_control control rest)
    · rename_i printed
      exact scanString_plain quotation backslash printed rest
  -- the characters with a letter of their own
  all_goals exact scanString_escape rfl

theorem scanString_written (value rest : List Char) :
    scanString (value.flatMap escaped ++ '"' :: rest) = .ok (value, rest) := by
  induction value with
  | nil => rw [List.flatMap_nil, List.nil_append, scanString]
  | cons c later ih =>
    rw [List.flatMap_cons, List.append_assoc, scanString_escaped, ih]
    rfl

end SentenceSampler.Json
