import Mathlib.Algebra.Group.Nat.Defs

/-!
The bytes of texts. Main statement: a text that comes before another one by the codes of its characters
comes before it by its bytes in UTF-8.
-/
namespace SentenceSampler.Text

open String (utf8EncodeChar)

/-- The bytes of a text in UTF-8. -/
def bytes (text : String) : List UInt8 := text.toByteArray.data.toList

theorem bytes_eq (text : String) : bytes text = text.toList.flatMap utf8EncodeChar := by
  rw [bytes, ← String.utf8Encode_toList, List.utf8Encode, List.data_toByteArray]

/-- The last digits of a code to the base 64, each in a byte of its own. -/
private def digits (code : Nat) : Nat → List UInt8
  | 0 => []
  | places + 1 => .ofNat (code / 64 ^ places % 64 + 128) :: digits code places

/-- The number of bytes behind the leading one of a code, and what is added to its leading digit. -/
private inductive Layout (code : Nat) : Nat → Nat → Prop where
  | one (most : code ≤ 0x7f) : Layout code 0 0
  | two (least : 0x7f < code) (most : code ≤ 0x7ff) : Layout code 1 0xc0
  | three (least : 0x7ff < code) (most : code ≤ 0xffff) : Layout code 2 0xe0
  | four (least : 0xffff < code) (most : code ≤ 0x10ffff) : Layout code 3 0xf0

private theorem Layout.leading_lt {code places mark : Nat} (layout : Layout code places mark) :
    code / 64 ^ places + mark < 256 := by
  cases layout <;> omega

/-- A greater code has more bytes, and with them a greater leading one, or as many. -/
private theorem Layout.leading_lt_or {first second places places' mark mark' : Nat}
    (layout : Layout first places mark) (layout' : Layout second places' mark')
    (less : first < second) :
    first / 64 ^ places + mark < second / 64 ^ places' + mark' ∨
      places = places' ∧ mark = mark' := by
  cases layout <;> cases layout' <;> omega

private theorem toNat_le (letter : Char) : letter.toNat ≤ 0x10ffff := by
  have valid := letter.valid
  simp only [UInt32.isValidChar, Nat.isValidChar] at valid
  rw [Char.toNat]
  omega

private theorem exists_layout (letter : Char) :
    ∃ places mark, Layout letter.toNat places mark ∧
      utf8EncodeChar letter =
        .ofNat (letter.toNat / 64 ^ places + mark) :: digits letter.toNat places := by
  have most := toNat_le letter
  simp only [utf8EncodeChar, ← Char.toNat.eq_1]
  split
  next small => exact ⟨0, 0, .one small, by simp [digits]⟩
  split
  next large small =>
    have leading : letter.toNat / 64 % 32 = letter.toNat / 64 := by omega
    refine ⟨1, 0xc0, .two (by omega) small, ?_⟩
    simp only [digits, leading, Nat.reducePow, Nat.div_one]
  split
  next large small =>
    have leading : letter.toNat / 4096 % 16 = letter.toNat / 4096 := by omega
    refine ⟨2, 0xe0, .three (by omega) small, ?_⟩
    simp only [digits, leading, Nat.reducePow, Nat.div_one]
  next large =>
    have leading : letter.toNat / 262144 % 8 = letter.toNat / 262144 := by omega
    refine ⟨3, 0xf0, .four (by omega) most, ?_⟩
    simp only [digits, leading, Nat.reducePow, Nat.div_one]

private theorem ofNat_cons_lt {first second : Nat} {behind after : List UInt8}
    (small : first < 256) (small' : second < 256)
    (less : first < second ∨ first = second ∧ behind < after) :
    UInt8.ofNat first :: behind < UInt8.ofNat second :: after := by
  rw [List.cons_lt_cons_iff, UInt8.lt_iff_toNat_lt, ← UInt8.toNat_inj,
    UInt8.toNat_ofNat_of_lt' small, UInt8.toNat_ofNat_of_lt' small']
  exact less

/-- The greater number has the greater quotient, or the same one and the greater remainder. -/
private theorem div_lt_or {first second : Nat} (base : Nat) (less : first < second) :
    first / base < second / base ∨
      first / base = second / base ∧ first % base < second % base := by
  have whole := Nat.div_add_mod first base
  have whole' := Nat.div_add_mod second base
  have most : first / base ≤ second / base := Nat.div_le_div_right (Nat.le_of_lt less)
  rcases Nat.lt_or_eq_of_le most with lower | same
  · exact .inl lower
  · rw [same] at whole
    exact .inr ⟨same, by omega⟩

private theorem digits_lt {code other places : Nat}
    (less : code % 64 ^ places < other % 64 ^ places) (behind after : List UInt8) :
    digits code places ++ behind < digits other places ++ after := by
  induction places with
  | zero => omega
  | succ places ih =>
    have digit (number : Nat) :
        number % 64 ^ (places + 1) / 64 ^ places = number / 64 ^ places % 64 := by
      rw [Nat.pow_succ, Nat.mod_mul_right_div_self]
    have rest (number : Nat) :
        number % 64 ^ (places + 1) % 64 ^ places = number % 64 ^ places :=
      Nat.mod_mod_of_dvd number (Nat.pow_dvd_pow 64 places.le_succ)
    have either := div_lt_or (64 ^ places) less
    rw [digit, digit, rest, rest] at either
    refine ofNat_cons_lt (by omega) (by omega) ?_
    rcases either with lower | ⟨same, lower⟩
    · exact .inl (by omega)
    · exact .inr ⟨by omega, ih lower⟩

/-- The lesser character comes first by its bytes, whatever stands behind the two. -/
theorem utf8EncodeChar_lt {first second : Char} (less : first < second)
    (behind after : List UInt8) :
    utf8EncodeChar first ++ behind < utf8EncodeChar second ++ after := by
  have codes : first.toNat < second.toNat := less
  obtain ⟨places, mark, layout, encoded⟩ := exists_layout first
  obtain ⟨places', mark', layout', encoded'⟩ := exists_layout second
  rw [encoded, encoded']
  refine ofNat_cons_lt layout.leading_lt layout'.leading_lt ?_
  rcases layout.leading_lt_or layout' codes with lower | ⟨rfl, rfl⟩
  · exact .inl lower
  · rcases div_lt_or (64 ^ places) codes with lower | ⟨same, lower⟩
    · exact .inl (by omega)
    · exact .inr ⟨by omega, digits_lt lower behind after⟩

private theorem flatMap_utf8EncodeChar_lt {first second : List Char}
    (less : List.Lex (· < ·) first second) :
    first.flatMap utf8EncodeChar < second.flatMap utf8EncodeChar := by
  induction less with
  | @nil letter letters =>
    obtain ⟨byte, others, encoded⟩ :=
      List.exists_cons_of_ne_nil (String.utf8EncodeChar_ne_nil (c := letter))
    rw [List.flatMap_cons, encoded]
    exact .nil
  | cons _ ih =>
    rw [List.flatMap_cons, List.flatMap_cons]
    exact List.append_left_lt ih
  | rel lower =>
    rw [List.flatMap_cons, List.flatMap_cons]
    exact utf8EncodeChar_lt lower _ _

/-- The order of texts is that of their bytes. -/
theorem bytes_lt {first second : String} (less : first < second) : bytes first < bytes second := by
  rw [bytes_eq, bytes_eq]
  exact flatMap_utf8EncodeChar_lt less

end SentenceSampler.Text
