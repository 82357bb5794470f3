import Mathlib.Algebra.Order.Floor.Div
import Mathlib.Order.Interval.Finset.Nat
import Mathlib.SetTheory.Cardinal.Finite
import SentenceSampler.Proofs.Chooser.Answers

/-!
Picks without bias. Main statement: a chooser draws words up to the first one that is used and answers with
its candidate, all candidates have the same number of words, and at least half of all words are used.
-/
namespace SentenceSampler.Uniform

variable {σ : Type} {draw : Draw σ} {candidates index place patience : Nat} {state : σ} {word : UInt64}

/-! The words of one candidate -/

/-- How many words stand for one candidate. -/
def share (candidates : Nat) : Nat := 2 ^ leadingZeros candidates

theorem shares_bounds (nonempty : candidates ≠ 0) (fits : candidates < UInt64.size) :
    2 ^ 63 ≤ candidates * share candidates ∧ candidates * share candidates < UInt64.size := by
  have low : 2 ^ candidates.log2 ≤ candidates := Nat.log2_self_le nonempty
  have high : candidates < 2 ^ (candidates.log2 + 1) := Nat.lt_log2_self
  have bits : candidates.log2 < 64 := (Nat.log2_lt nonempty).mpr fits
  have half : 2 ^ candidates.log2 * share candidates = 2 ^ 63 := by
    rw [share, leadingZeros, ← Nat.pow_add, Nat.add_sub_cancel' (by omega)]
  have whole : 2 ^ (candidates.log2 + 1) * share candidates = UInt64.size := by
    rw [Nat.pow_succ, Nat.mul_right_comm, half]
    rfl
  constructor
  · rw [← half]
    exact Nat.mul_le_mul_right _ low
  · calc candidates * share candidates < 2 ^ (candidates.log2 + 1) * share candidates :=
          Nat.mul_lt_mul_of_pos_right high (Nat.two_pow_pos _)
      _ = UInt64.size := whole

/-- The products of the words of a candidate lie next to each other, behind those of the candidates before
it. -/
theorem pick?_eq_some_iff (nonempty : candidates ≠ 0) (fits : candidates < UInt64.size) :
    pick? candidates word = some index ↔
      index * UInt64.size ≤ word.toNat * candidates ∧
        word.toNat * candidates < index * UInt64.size + candidates * share candidates := by
  obtain ⟨-, below⟩ := shares_bounds nonempty fits
  have positive : 0 < candidates * share candidates :=
    Nat.mul_pos (Nat.pos_of_ne_zero nonempty) (Nat.two_pow_pos _)
  have zone_eq : zone candidates = candidates * share candidates - 1 := by
    rw [zone, Nat.shiftLeft_eq, share]
  have split := Nat.div_add_mod (word.toNat * candidates) UInt64.size
  have rest := Nat.mod_lt (word.toNat * candidates) (show 0 < UInt64.size by decide)
  simp only [pick?, zone_eq]
  constructor
  · intro picked
    obtain ⟨used, same⟩ : word.toNat * candidates % UInt64.size ≤ candidates * share candidates - 1 ∧
        word.toNat * candidates / UInt64.size = index := by simpa using picked
    rw [same, Nat.mul_comm] at split
    omega
  · rintro ⟨from_, until_⟩
    have same : word.toNat * candidates / UInt64.size = index :=
      Nat.div_eq_of_lt_le from_ (by rw [Nat.succ_mul]; omega)
    rw [same, Nat.mul_comm] at split
    rw [if_pos (by omega), same]

/-- The first word of a candidate. -/
def firstWord (candidates index : Nat) : Nat := (index * UInt64.size) ⌈/⌉ candidates

theorem firstWord_le_iff (nonempty : candidates ≠ 0) (number : Nat) :
    firstWord candidates index ≤ number ↔ index * UInt64.size ≤ candidates * number :=
  ceilDiv_le_iff_le_mul (Nat.pos_of_ne_zero nonempty)

theorem firstWord_add_share_le_iff (nonempty : candidates ≠ 0) (number : Nat) :
    firstWord candidates index + share candidates ≤ number ↔
      index * UInt64.size + candidates * share candidates ≤ candidates * number := by
  by_cases late : share candidates ≤ number
  · obtain ⟨earlier, rfl⟩ := Nat.exists_eq_add_of_le' late
    rw [Nat.mul_add, Nat.add_le_add_iff_right, Nat.add_le_add_iff_right, firstWord_le_iff nonempty]
  · have early : candidates * number < candidates * share candidates :=
      Nat.mul_lt_mul_of_pos_left (Nat.not_le.mp late) (Nat.pos_of_ne_zero nonempty)
    omega

/-- The words of a candidate come one after the other, as many as its share. -/
theorem pick?_eq_some_iff_mem (nonempty : candidates ≠ 0) (fits : candidates < UInt64.size) :
    pick? candidates word = some index ↔
      word.toNat ∈ Finset.Ico (firstWord candidates index)
        (firstWord candidates index + share candidates) := by
  rw [pick?_eq_some_iff nonempty fits, Finset.mem_Ico, firstWord_le_iff nonempty, ← Nat.not_le,
    ← Nat.not_le, firstWord_add_share_le_iff nonempty, Nat.mul_comm word.toNat]

theorem firstWord_add_share_le (within : index < candidates) (fits : candidates < UInt64.size) :
    firstWord candidates index + share candidates ≤ UInt64.size := by
  have nonempty : candidates ≠ 0 := Nat.ne_zero_of_lt within
  obtain ⟨-, below⟩ := shares_bounds nonempty fits
  have others : (index + 1) * UInt64.size ≤ candidates * UInt64.size := Nat.mul_le_mul_right _ within
  rw [Nat.succ_mul] at others
  exact (firstWord_add_share_le_iff nonempty _).mpr (by omega)

theorem card_words (within : index < candidates) (fits : candidates < UInt64.size) :
    Nat.card {word : UInt64 // pick? candidates word = some index} = share candidates := by
  have nonempty : candidates ≠ 0 := Nat.ne_zero_of_lt within
  have last := firstWord_add_share_le within fits
  let numbers := Finset.Ico (firstWord candidates index) (firstWord candidates index + share candidates)
  let number (word : {word : UInt64 // pick? candidates word = some index}) : numbers :=
    ⟨word.1.toNat, (pick?_eq_some_iff_mem nonempty fits).mp word.2⟩
  have bijective : Function.Bijective number := by
    constructor
    · intro first second same
      exact Subtype.ext (UInt64.toNat_inj.mp (congrArg Subtype.val same))
    · rintro ⟨value, member⟩
      have among : value < UInt64.size := Nat.lt_of_lt_of_le (Finset.mem_Ico.mp member).2 last
      have same : (UInt64.ofNat value).toNat = value := UInt64.toNat_ofNat_of_lt' among
      refine ⟨⟨UInt64.ofNat value, (pick?_eq_some_iff_mem nonempty fits).mpr ?_⟩, Subtype.ext same⟩
      rwa [same]
  rw [Nat.card_eq_of_bijective number bijective, Nat.card_eq_fintype_card, Fintype.card_coe,
    Nat.card_Ico, Nat.add_sub_cancel_left]

theorem card_used (nonempty : candidates ≠ 0) (fits : candidates < UInt64.size) :
    Nat.card {word : UInt64 // (pick? candidates word).isSome = true} =
      candidates * share candidates := by
  let words (index : Fin candidates) := {word : UInt64 // pick? candidates word = some index.val}
  let used (word : Sigma words) : {word : UInt64 // (pick? candidates word).isSome = true} :=
    ⟨word.2.1, Option.isSome_of_eq_some word.2.2⟩
  have bijective : Function.Bijective used := by
    constructor
    · rintro ⟨first, word, picked⟩ ⟨second, other, alsoPicked⟩ same
      obtain rfl : word = other := congrArg Subtype.val same
      obtain rfl : first = second := Fin.ext (Option.some.inj (picked.symm.trans alsoPicked))
      rfl
    · rintro ⟨word, some⟩
      obtain ⟨index, picked⟩ := Option.isSome_iff_exists.mp some
      exact ⟨⟨⟨index, lt_of_pick? nonempty picked⟩, word, picked⟩, rfl⟩
  have each (index : Fin candidates) : Nat.card (words index) = share candidates :=
    card_words index.isLt fits
  have finite (index : Fin candidates) : Finite (words index) := by
    refine Nat.finite_of_card_ne_zero ?_
    rw [each index]
    exact Nat.ne_of_gt (Nat.two_pow_pos _)
  rw [← Nat.card_eq_of_bijective used bijective, Nat.card_sigma]
  simp only [each, Finset.sum_const, Finset.card_univ, Fintype.card_fin, smul_eq_mul]

/-! The words that are drawn -/

/-- A source when some words have been drawn. -/
def after (draw : Draw σ) : Nat → σ → σ
  | 0, state => state
  | drawn + 1, state => after draw drawn (draw state).2

/-- The word that comes when some words have been drawn. -/
def wordAt (draw : Draw σ) (drawn : Nat) (state : σ) : UInt64 := (draw (after draw drawn state)).1

/-- The first word that is used, behind words that are not. -/
def FirstUsed (draw : Draw σ) (candidates : Nat) (state : σ) (drawn index : Nat) : Prop :=
  pick? candidates (wordAt draw drawn state) = some index ∧
    ∀ earlier < drawn, pick? candidates (wordAt draw earlier state) = none

theorem exists_firstUsed
    (used : ∃ drawn, (pick? candidates (wordAt draw drawn state)).isSome = true) :
    ∃ drawn index, FirstUsed draw candidates state drawn index := by
  obtain ⟨index, picked⟩ := Option.isSome_iff_exists.mp (Nat.find_spec used)
  refine ⟨Nat.find used, index, picked, fun earlier before => ?_⟩
  simpa using Nat.find_min used before

theorem drawPick_of_firstUsed {drawn : Nat} (first : FirstUsed draw candidates state drawn index)
    (patient : drawn < patience) :
    drawPick draw candidates patience state = (some index, after draw (drawn + 1) state) := by
  obtain ⟨picked, refused⟩ := first
  induction drawn generalizing state patience with
  | zero =>
    obtain ⟨more, rfl⟩ := Nat.exists_eq_add_one.mpr patient
    have now : pick? candidates (draw state).1 = some index := picked
    simp only [drawPick, now]
    rfl
  | succ drawn ih =>
    obtain ⟨more, rfl⟩ := Nat.exists_eq_add_one.mpr (Nat.zero_lt_of_lt patient)
    have now : pick? candidates (draw state).1 = none := refused 0 (Nat.succ_pos _)
    simp only [drawPick, now]
    exact ih (Nat.succ_lt_succ_iff.mp patient) picked
      fun earlier before => refused (earlier + 1) (Nat.succ_lt_succ before)

/-- A chooser that is asked with some candidates draws words up to the first one that is used, and answers
with the candidate of that word. Every candidate has the same number of words, a power of two with as many
zeros as there are in front of the number of candidates, and at least half of all words are used. Where
there are no candidates it draws nothing. -/
theorem choose_unbiased (draw : Draw σ) (nonempty : 1 ≤ candidates) (fits : candidates < 2 ^ 64) :
    (∀ state, (∃ drawn, (pick? candidates (wordAt draw drawn state)).isSome = true) →
      ∃ drawn, ∃ index < candidates, FirstUsed draw candidates state drawn index ∧
        ∀ patience > drawn, choose draw patience candidates state =
          (some index, after draw (drawn + 1) state)) ∧
      (∀ index < candidates, Nat.card {word : UInt64 // pick? candidates word = some index} =
        2 ^ leadingZeros candidates) ∧
      (2 ^ 63 ≤ candidates * 2 ^ leadingZeros candidates ∧
        candidates * 2 ^ leadingZeros candidates < 2 ^ 64) ∧
      2 ^ 64 ≤ 2 * Nat.card {word : UInt64 // (pick? candidates word).isSome = true} ∧
      ∀ patience state, choose draw patience 0 state = (none, state) := by
  have some : candidates ≠ 0 := Nat.ne_of_gt nonempty
  have bounds := shares_bounds some fits
  refine ⟨fun state used => ?_, fun index within => card_words within fits, bounds, ?_, ?_⟩
  · obtain ⟨drawn, index, first⟩ := exists_firstUsed used
    refine ⟨drawn, index, lt_of_pick? some first.1, first, fun patience patient => ?_⟩
    rw [choose, if_neg some, drawPick_of_firstUsed first patient]
  · rw [card_used some fits]
    omega
  · intro patience state
    rfl

/-- Words of which the first one is refused among three candidates: `2 ^ 62` and `2 ^ 63`. -/
def Cycle.wasteful : Cycle := .ofList [0x4000000000000000, 0x8000000000000000]

/-- The second word stands for the second candidate. -/
theorem choose_unbiased_three :
    choose Cycle.draw 2 3 .wasteful = (some 1, { Cycle.wasteful with drawn := 2 }) ∧
      Nat.card {word : UInt64 // pick? 3 word = some 1} = 2 ^ 62 := by
  have refused : pick? 3 (wordAt Cycle.draw 0 .wasteful) = none := by rfl
  have picked : pick? 3 (wordAt Cycle.draw 1 .wasteful) = some 1 := by rfl
  have three : 1 ≤ 3 := by decide
  obtain ⟨chosen, words, -⟩ := choose_unbiased Cycle.draw three (by decide)
  obtain ⟨drawn, index, -, ⟨first, before⟩, asked⟩ := chosen .wasteful ⟨1, by rw [picked]; rfl⟩
  have late : drawn ≠ 0 := by
    rintro rfl
    cases refused.symm.trans first
  have early : ¬ 1 < drawn := fun behind => by cases picked.symm.trans (before 1 behind)
  obtain rfl : drawn = 1 := by omega
  obtain rfl : 1 = index := Option.some.inj (picked.symm.trans first)
  exact ⟨asked 2 (by decide), words 1 (by decide)⟩

end SentenceSampler.Uniform
