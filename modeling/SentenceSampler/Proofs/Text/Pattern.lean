import Mathlib.Data.List.Basic

/-!
Patterns that are searched for in texts. A search goes from left to right, and where a pattern matches in
several ways, prefers those in which the earlier repetitions take more. Main statements: a pattern that is
bound to the start of the text, and captures the same in whatever way it matches, captures what any of
these ways does; and the matches one after the other, each searched for behind the one before it, are unique.
-/
namespace SentenceSampler.Text

/-- Patterns are put together from the two ends of the text, characters of a class, and runs of them. A
group captures what is taken inside it. -/
inductive Pattern where
  | empty
  | start
  | stop
  | one (allowed : Char → Bool)
  | many (allowed : Char → Bool)
  | seq (first second : Pattern)
  | group (inner : Pattern)

/-- One way to match: what is taken, what is captured of it, and what is left behind it. -/
structure Way where
  taken : List Char
  captures : List (List Char)
  rest : List Char

/-- One way to match, and another one behind it. -/
def Way.then (way next : Way) : Way :=
  ⟨way.taken ++ next.taken, way.captures ++ next.captures, next.rest⟩

namespace Pattern

/-! Ways to match -/

/-- The runs at the start of a text and what each of them leaves, the longest run first. -/
def runs (allowed : Char → Bool) : List Char → List (List Char × List Char)
  | [] => [([], [])]
  | c :: later =>
    if allowed c then
      (runs allowed later).map (fun (run, rest) => (c :: run, rest)) ++ [([], c :: later)]
    else [([], c :: later)]

/-- All ways to match between what is behind and what is ahead, the preferred one first. -/
def ways : Pattern → (behind ahead : List Char) → List Way
  | .empty, _, ahead => [⟨[], [], ahead⟩]
  | .start, behind, ahead => if behind = [] then [⟨[], [], ahead⟩] else []
  | .stop, _, ahead => if ahead = [] then [⟨[], [], []⟩] else []
  | .one _, _, [] => []
  | .one allowed, _, c :: rest => if allowed c then [⟨[c], [], rest⟩] else []
  | .many allowed, _, ahead => (runs allowed ahead).map fun (run, rest) => ⟨run, [], rest⟩
  | .seq first second, behind, ahead =>
    (first.ways behind ahead).flatMap fun way =>
      (second.ways (behind ++ way.taken) way.rest).map way.then
  | .group inner, behind, ahead =>
    (inner.ways behind ahead).map fun way => ⟨way.taken, way.taken :: way.captures, way.rest⟩

/-- What the first match from the left captures, in the way that is preferred there. -/
def captures? (pattern : Pattern) (text : List Char) : Option (List (List Char)) :=
  (List.range (text.length + 1)).findSome? fun offset =>
    (pattern.ways (text.take offset) (text.drop offset)).head?.map Way.captures

/-- What a search passes over, and the preferred way to match behind that. -/
def search? (pattern : Pattern) (behind : List Char) : List Char → Option (List Char × Way)
  | [] => (pattern.ways behind []).head?.map fun way => ([], way)
  | c :: rest =>
    match (pattern.ways behind (c :: rest)).head? with
    | some way => some ([], way)
    | none => (pattern.search? (behind ++ [c]) rest).map fun (passed, way) => (c :: passed, way)

/-- The matches from left to right, each with what is passed over in front of it, and what is left behind the
last one. A search begins where the match before it ends. -/
inductive Successive (pattern : Pattern) :
    (behind ahead : List Char) → List (List Char × List Char) → List Char → Prop where
  | done {behind ahead : List Char} (none : pattern.search? behind ahead = none) :
      Successive pattern behind ahead [] ahead
  | next {behind ahead passed left : List Char} {way : Way} {later : List (List Char × List Char)}
      (found : pattern.search? behind ahead = some (passed, way)) (some : way.taken ≠ [])
      (rest : Successive pattern (behind ++ passed ++ way.taken) way.rest later left) :
      Successive pattern behind ahead ((passed, way.taken) :: later) left

/-! Shorter patterns -/

def all (parts : List Pattern) : Pattern := parts.foldr seq empty

def literal (word : List Char) : Pattern := all (word.map fun c => one (· = c))

def atLeastOne (allowed : Char → Bool) : Pattern := seq (one allowed) (many allowed)

/-! What may be reached -/

variable {behind ahead text : List Char} {allowed : Char → Bool} {goal : Way → Prop}
variable {pattern first second : Pattern}

/-- There is a way to match with a certain property. -/
def Leads (pattern : Pattern) (behind ahead : List Char) (goal : Way → Prop) : Prop :=
  ∃ way ∈ pattern.ways behind ahead, goal way

theorem leads_empty : empty.Leads behind ahead goal ↔ goal ⟨[], [], ahead⟩ := by
  simp [Leads, ways]

theorem leads_start : start.Leads behind ahead goal ↔ behind = [] ∧ goal ⟨[], [], ahead⟩ := by
  by_cases first : behind = [] <;> simp [Leads, ways, first]

theorem leads_stop : stop.Leads behind ahead goal ↔ ahead = [] ∧ goal ⟨[], [], []⟩ := by
  by_cases last : ahead = [] <;> simp [Leads, ways, last]

theorem leads_one :
    (one allowed).Leads behind ahead goal ↔
      ∃ c rest, allowed c = true ∧ ahead = c :: rest ∧ goal ⟨[c], [], rest⟩ := by
  cases ahead with
  | nil => simp [Leads, ways]
  | cons c rest => by_cases fits : allowed c <;> simp [Leads, ways, fits]

theorem mem_runs {run rest : List Char} :
    (run, rest) ∈ runs allowed ahead ↔ (∀ c ∈ run, allowed c = true) ∧ ahead = run ++ rest := by
  fun_induction runs allowed ahead generalizing run with
  | case1 => cases run <;> simp
  | case2 c later fits ih =>
    cases run with
    | nil => simpa using (eq_comm : rest = c :: later ↔ _)
    | cons first run => grind
  | case3 c later other =>
    cases run with
    | nil => simpa using (eq_comm : rest = c :: later ↔ _)
    | cons first run => grind

theorem leads_many :
    (many allowed).Leads behind ahead goal ↔
      ∃ run rest, (∀ c ∈ run, allowed c = true) ∧ ahead = run ++ rest ∧ goal ⟨run, [], rest⟩ := by
  simp [Leads, ways, mem_runs, and_assoc]

theorem leads_seq :
    (seq first second).Leads behind ahead goal ↔
      first.Leads behind ahead fun way =>
        second.Leads (behind ++ way.taken) way.rest fun next => goal (way.then next) := by
  simp only [Leads, ways, List.mem_flatMap, List.mem_map]
  constructor
  · rintro ⟨_, ⟨way, before, next, after, rfl⟩, reached⟩
    exact ⟨way, before, next, after, reached⟩
  · rintro ⟨way, before, next, after, reached⟩
    exact ⟨_, ⟨way, before, next, after, rfl⟩, reached⟩

theorem leads_group :
    (group pattern).Leads behind ahead goal ↔
      pattern.Leads behind ahead fun way => goal ⟨way.taken, way.taken :: way.captures, way.rest⟩ := by
  simp [Leads, ways]

theorem leads_all_nil : (all []).Leads behind ahead goal ↔ goal ⟨[], [], ahead⟩ := leads_empty

theorem leads_all_cons {parts : List Pattern} :
    (all (pattern :: parts)).Leads behind ahead goal ↔
      pattern.Leads behind ahead fun way =>
        (all parts).Leads (behind ++ way.taken) way.rest fun next => goal (way.then next) := leads_seq

theorem leads_literal {word : List Char} :
    (literal word).Leads behind ahead goal ↔ ∃ rest, ahead = word ++ rest ∧ goal ⟨word, [], rest⟩ := by
  induction word generalizing behind ahead goal with
  | nil => simp [literal, leads_all_nil]
  | cons c word ih =>
    have split : literal (c :: word) = seq (one (· = c)) (literal word) := rfl
    rw [split, leads_seq, leads_one]
    simp only [ih, decide_eq_true_eq, Way.then]
    constructor
    · rintro ⟨_, _, rfl, rfl, rest, rfl, reached⟩
      exact ⟨rest, rfl, reached⟩
    · rintro ⟨rest, rfl, reached⟩
      exact ⟨c, word ++ rest, rfl, rfl, rest, rfl, reached⟩

theorem leads_atLeastOne :
    (atLeastOne allowed).Leads behind ahead goal ↔
      ∃ run rest, run ≠ [] ∧ (∀ c ∈ run, allowed c = true) ∧ ahead = run ++ rest ∧
        goal ⟨run, [], rest⟩ := by
  rw [atLeastOne, leads_seq, leads_one]
  simp only [leads_many, Way.then]
  constructor
  · rintro ⟨c, _, fits, rfl, run, rest, inside, rfl, reached⟩
    exact ⟨c :: run, rest, by simp, List.forall_mem_cons.mpr ⟨fits, inside⟩, rfl, reached⟩
  · rintro ⟨run, rest, some, inside, rfl, reached⟩
    obtain ⟨c, run, rfl⟩ := List.exists_cons_of_ne_nil some
    obtain ⟨fits, inside⟩ := List.forall_mem_cons.mp inside
    exact ⟨c, run ++ rest, fits, rfl, run, rest, inside, rfl, reached⟩

/-! Searches -/

/-- A pattern that begins with the start of the text matches nowhere else. -/
theorem captures?_all_start (parts : List Pattern) (text : List Char) :
    (all (start :: parts)).captures? text =
      ((all (start :: parts)).ways [] text).head?.map Way.captures := by
  have beyond : ∀ offset ∈ List.range text.length,
      (((all (start :: parts)).ways (text.take (offset + 1)) (text.drop (offset + 1))).head?.map
        Way.captures) = none := by
    intro offset member
    have within : offset < text.length := List.mem_range.mp member
    have some : text.take (offset + 1) ≠ [] := by
      rw [Ne, List.take_eq_nil_iff]
      rintro (impossible | rfl)
      · cases impossible
      · cases within
    simp [all, ways, some]
  rw [captures?, List.range_succ_eq_map, List.findSome?_cons, List.findSome?_map]
  simp only [List.take_zero, List.drop_zero]
  split
  · rename_i found
    exact found.symm
  · rename_i none
    rw [none]
    exact List.findSome?_eq_none_iff.mpr beyond

/-- Where all ways to match from the start capture the same, the order among them does not matter. -/
theorem captures?_eq_some_iff {parts : List Pattern} {found : List (List Char)}
    {form : List (List Char) → Prop}
    (leads : ∀ found, (all (start :: parts)).Leads [] text (fun way => way.captures = found) ↔ form found)
    (once : ∀ first second, form first → form second → first = second) :
    (all (start :: parts)).captures? text = some found ↔ form found := by
  rw [captures?_all_start, Option.map_eq_some_iff]
  constructor
  · rintro ⟨way, first, rfl⟩
    exact (leads way.captures).mp ⟨way, List.mem_of_head? first, rfl⟩
  · intro fits
    obtain ⟨way, member, same⟩ := (leads found).mpr fits
    obtain ⟨first, later, ordered⟩ := List.exists_cons_of_ne_nil (List.ne_nil_of_mem member)
    have preferred : form first.captures := (leads _).mp ⟨first, by simp [ordered], rfl⟩
    exact ⟨first, by rw [ordered, List.head?_cons], once _ _ preferred fits⟩

theorem search?_of_forall {way : Way} (member : way ∈ pattern.ways behind ahead)
    (only : ∀ other ∈ pattern.ways behind ahead, other = way) :
    pattern.search? behind ahead = some ([], way) := by
  obtain ⟨first, later, ordered⟩ := List.exists_cons_of_ne_nil (List.ne_nil_of_mem member)
  have preferred : (pattern.ways behind ahead).head? = some way := by
    rw [ordered, List.head?_cons, only first (by simp [ordered])]
  cases ahead <;> simp [search?, preferred]

/-- Where a pattern matches in front of none of some characters, a search passes over them. -/
theorem search?_append {passed : List Char}
    (fails : ∀ c ∈ passed, ∀ behind rest, pattern.ways behind (c :: rest) = []) (behind ahead : List Char) :
    pattern.search? behind (passed ++ ahead) =
      (pattern.search? (behind ++ passed) ahead).map fun (before, way) => (passed ++ before, way) := by
  induction passed generalizing behind with
  | nil => simp
  | cons c passed ih =>
    obtain ⟨first, others⟩ := List.forall_mem_cons.mp fails
    rw [List.cons_append, search?, first]
    simp [ih others, Function.comp_def]

/-- The first match is the one whose captures are told. -/
theorem captures?_eq_search? (pattern : Pattern) (text : List Char) :
    pattern.captures? text = (pattern.search? [] text).map fun (_, way) => way.captures := by
  have from_behind (behind ahead : List Char) :
      ((List.range (ahead.length + 1)).findSome? fun offset =>
        (pattern.ways (behind ++ ahead.take offset) (ahead.drop offset)).head?.map Way.captures) =
      (pattern.search? behind ahead).map fun (_, way) => way.captures := by
    induction ahead generalizing behind with
    | nil => simp [search?, Function.comp_def]
    | cons c rest ih =>
      rw [List.length_cons, List.range_succ_eq_map, List.findSome?_cons, List.findSome?_map, search?]
      cases first : (pattern.ways behind (c :: rest)).head? with
      | some way => simp [first]
      | none => simpa [first, Function.comp_def] using ih (behind ++ [c])
  exact from_behind [] text

theorem Successive.unique {found found' : List (List Char × List Char)} {left left' : List Char}
    (successive : pattern.Successive behind ahead found left)
    (again : pattern.Successive behind ahead found' left') : found = found' ∧ left = left' := by
  induction successive generalizing found' left' with
  | done none =>
    cases again with
    | done => exact ⟨rfl, rfl⟩
    | next found => cases none.symm.trans found
  | next found _ _ ih =>
    cases again with
    | done none => cases none.symm.trans found
    | next other _ rest =>
      cases found.symm.trans other
      obtain ⟨rfl, rfl⟩ := ih rest
      exact ⟨rfl, rfl⟩

end Pattern

end SentenceSampler.Text
