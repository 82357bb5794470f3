import SentenceSampler.Sentence

/-!
Sentences as compositions of their parts. Main statement: a sentence goes on behind its first tokens as behind
an empty one, and holds all its tokens in order, with a single space before each that wants one.
-/
namespace SentenceSampler.Sentence

/-- A token that gets a space before it unless it is the first one: it holds something, and its first
character is none of those that stay close to the text before them. -/
def stands (token : String) : Bool :=
  match token.toList with
  | [] => false
  | c :: _ => c ∉ ['.', '?', ',', ':', ' ']

theorem gap_eq (token : String) : gap token = if stands token then " " else "" := by
  unfold gap stands
  cases token.toList with
  | nil => rfl
  | cons c rest =>
    by_cases close : attaches c
    · have member : c ∈ ['.', '?', ',', ':', ' '] := by simpa [attaches, or_assoc] using close
      simp [close, member]
    · have absent : c ∉ ['.', '?', ',', ':', ' '] := by simpa [attaches, or_assoc] using close
      simp [close, absent]

/-! What tokens add to a text -/

/-- What tokens add to a text that they are not the first of. -/
def addition (tokens : List String) : String :=
  String.join (tokens.map fun token => gap token ++ token)

theorem addition_cons (token : String) (tokens : List String) :
    addition (token :: tokens) = gap token ++ token ++ addition tokens := by
  simp [addition]

theorem addition_append (tokens later : List String) :
    addition (tokens ++ later) = addition tokens ++ addition later := by
  simp [addition]

theorem addition_filter (tokens : List String) :
    addition (tokens.filter (· ≠ "")) = addition tokens := by
  induction tokens with
  | nil => rfl
  | cons token tokens ih =>
    by_cases empty : token = ""
    · have none : gap "" = "" := rfl
      rw [List.filter_cons_of_neg (by simpa using empty), ih, addition_cons, empty, none]
      simp
    · rw [List.filter_cons_of_pos (by simpa using empty), addition_cons, addition_cons, ih]

private theorem foldl_gap (text : String) (tokens : List String) :
    tokens.foldl (fun text token => text ++ gap token ++ token) text = text ++ addition tokens := by
  induction tokens generalizing text with
  | nil => simp [addition]
  | cons token tokens ih =>
    rw [List.foldl_cons, ih, addition_cons]
    simp only [String.append_assoc]

theorem join_cons (first : String) (later : List String) :
    join (first :: later) = first ++ addition later :=
  foldl_gap first later

theorem join_empty_cons (tokens : List String) : join ("" :: tokens) = addition tokens := by
  rw [join_cons, String.empty_append]

/-- What stands behind the first tokens is what would stand behind an empty one. -/
theorem join_append {tokens : List String} (some : tokens ≠ []) (later : List String) :
    join (tokens ++ later) = join tokens ++ join ("" :: later) := by
  obtain ⟨first, others, rfl⟩ := List.exists_cons_of_ne_nil some
  rw [List.cons_append, join_cons, join_cons, join_empty_cons, addition_append, String.append_assoc]

/-- Only the first token and the later ones that hold something have an effect. -/
theorem join_congr {tokens others : List String} (first : tokens.head? = others.head?)
    (later : tokens.tail.filter (· ≠ "") = others.tail.filter (· ≠ "")) : join tokens = join others := by
  cases tokens with
  | nil =>
    rw [List.head?_nil, eq_comm, List.head?_eq_none_iff] at first
    rw [first]
  | cons token tokens =>
    obtain ⟨rest, rfl⟩ := List.head?_eq_some_iff.mp first.symm
    rw [join_cons, join_cons, ← addition_filter tokens, ← addition_filter rest]
    exact congrArg (fun kept => token ++ addition kept) later

/-- An empty token in front lets the token behind it get its space. -/
theorem join_empty_front (tokens : List String) :
    join ("" :: tokens) = (if tokens.head?.any stands then " " else "") ++ join tokens := by
  rw [join_empty_cons]
  cases tokens with
  | nil => rfl
  | cons first later =>
    have front : (if (first :: later).head?.any stands then " " else "") = gap first := (gap_eq first).symm
    rw [front, join_cons, addition_cons, String.append_assoc]

/-! Tokens and gaps -/

/-- A text that consists of tokens in order, each behind its gap, which is nothing or a single space. -/
inductive Interleaves : List String → List String → String → Prop where
  | nil : Interleaves [] [] ""
  | cons {gap token text : String} {gaps tokens : List String} (single : gap = "" ∨ gap = " ")
      (rest : Interleaves gaps tokens text) :
      Interleaves (gap :: gaps) (token :: tokens) (gap ++ token ++ text)

namespace Interleaves

variable {gaps tokens : List String} {text : String}

/-- No character of a token is lost, and they are in order. -/
theorem sublist (interleaves : Interleaves gaps tokens text) :
    (String.join tokens).toList.Sublist text.toList := by
  induction interleaves with
  | nil => exact List.Sublist.refl _
  | @cons gap token text _ _ _ _ ih =>
    rw [String.join_cons, String.toList_append, String.toList_append, String.toList_append, List.append_assoc]
    exact (ih.append_left token.toList).trans (List.sublist_append_right gap.toList _)

/-- Every character is there as often as in the tokens, and a space once more for every gap that is one. -/
theorem count (interleaves : Interleaves gaps tokens text) (c : Char) :
    text.toList.count c =
      (String.join tokens).toList.count c + if c = ' ' then gaps.count " " else 0 := by
  induction interleaves with
  | nil => simp
  | @cons gap token text gaps tokens single _ ih =>
    have space : gap.toList.count c = if c = ' ' then [gap].count " " else 0 := by
      rcases single with rfl | rfl
      · simp
      · by_cases same : c = ' '
        · simp [same]
        · have other : ' ' ≠ c := fun same' => same same'.symm
          simp [same, other]
    have more : (gap :: gaps).count " " = [gap].count " " + gaps.count " " := by
      rw [← List.singleton_append, List.count_append]
    rw [String.join_cons, String.toList_append, String.toList_append, String.toList_append,
      List.count_append, List.count_append, List.count_append, ih, space, more]
    split <;> omega

end Interleaves

theorem gap_eq_space_iff (token : String) : gap token = " " ↔ stands token = true := by
  rw [gap_eq]
  cases stands token <;> decide

theorem interleaves_addition (tokens : List String) :
    Interleaves (tokens.map gap) tokens (addition tokens) := by
  induction tokens with
  | nil => exact .nil
  | cons token tokens ih =>
    have single : gap token = "" ∨ gap token = " " := by
      rw [gap_eq]
      split
      · exact .inr rfl
      · exact .inl rfl
    rw [addition_cons]
    exact .cons single ih

theorem count_gap (tokens : List String) : (tokens.map gap).count " " = tokens.countP stands := by
  rw [List.count, List.countP_map]
  apply List.countP_congr
  intro token _
  simp [gap_eq_space_iff]

/-- The gaps of a sentence: none before the first token, and a space before each later one that stands
apart. -/
structure Spacing (tokens gaps : List String) : Prop where
  interleaves : Interleaves gaps tokens (join tokens)
  space_iff (index : Nat) : gaps[index]? = some " " ↔ 0 < index ∧ tokens[index]?.any stands = true
  count : gaps.count " " = tokens.tail.countP stands

theorem exists_spacing (tokens : List String) : ∃ gaps, Spacing tokens gaps := by
  cases tokens with
  | nil => exact ⟨[], .nil, by simp, rfl⟩
  | cons first later =>
    refine ⟨"" :: later.map gap, ?_, ?_, ?_⟩
    · rw [join_cons, ← String.empty_append (s := first)]
      exact .cons (.inl rfl) (interleaves_addition later)
    · intro index
      cases index with
      | zero => simp
      | succ index => cases found : later[index]? <;> simp [found, gap_eq_space_iff]
    · exact count_gap later

/-- A sentence goes on behind its tokens as it would behind an empty one. Empty tokens behind the first one
make no difference; one in front adds a space exactly where the token that was first stands apart. All in
all the tokens follow each other in order, with a single space before each later one that stands apart and
nothing else, so that no character is lost, doubled or moved. -/
theorem join_composes (tokens later : List String) :
    (tokens ≠ [] → join (tokens ++ later) = join tokens ++ join ("" :: later)) ∧
      (tokens ≠ [] → join (tokens ++ "" :: later) = join (tokens ++ later)) ∧
      (tokens.head? = later.head? → tokens.tail.filter (· ≠ "") = later.tail.filter (· ≠ "") →
        join tokens = join later) ∧
      join ("" :: tokens) = (if tokens.head?.any stands then " " else "") ++ join tokens ∧
      (∃ gaps, Spacing tokens gaps) ∧
      (String.join tokens).toList.Sublist (join tokens).toList ∧
      ∀ c, (join tokens).toList.count c =
        (String.join tokens).toList.count c + if c = ' ' then tokens.tail.countP stands else 0 := by
  obtain ⟨gaps, spacing⟩ := exists_spacing tokens
  refine ⟨fun some => join_append some later, ?_, join_congr, join_empty_front tokens, ⟨gaps, spacing⟩,
    spacing.interleaves.sublist, ?_⟩
  · intro some
    obtain ⟨first, others, rfl⟩ := List.exists_cons_of_ne_nil some
    apply join_congr
    · rfl
    · simp
  · intro c
    rw [spacing.interleaves.count c, spacing.count]

/-- An empty token in front, one in between, and a mark that stays close to the token before it. -/
theorem join_composes_marks :
    join (["", "yes"] ++ [",", "no"]) = join ["", "yes"] ++ join ["", ",", "no"] ∧
      join (["", "yes"] ++ "" :: [",", "no"]) = join (["", "yes"] ++ [",", "no"]) ∧
      join ["", "yes", "", ",", ""] = join ["", "yes", ","] := by
  obtain ⟨append, insert, -⟩ := join_composes ["", "yes"] [",", "no"]
  obtain ⟨-, -, same, -⟩ := join_composes ["", "yes", "", ",", ""] ["", "yes", ","]
  exact ⟨append (by decide), insert (by decide), same rfl (by decide)⟩

example : join ["My", "name", "is", "Bond", ",", "James", "Bond", "."] = "My name is Bond, James Bond." := by
  decide

end SentenceSampler.Sentence
