import SentenceSampler.Proofs.Grammar.Alternation
import SentenceSampler.Proofs.Text.Pattern

/-!
Bodies of rule lines and the pattern of a quoted symbol. Main statement: the symbols of a body are what the
pattern matches, one match after the other, without the marks; the first match with something else than
separators in front is the one that is told.
-/
namespace SentenceSampler.Grammar

open Text

variable {behind ahead body gap symbol left : List Char} {found : List (List Char × List Char)}

/-- The pattern `"[^"]*"`. -/
def symbolPattern : Pattern := .all [.literal ['"'], .many (· ≠ '"'), .literal ['"']]

theorem symbolPattern_leads {goal : Way → Prop} :
    symbolPattern.Leads behind ahead goal ↔
      ∃ symbol rest, '"' ∉ symbol ∧ ahead = '"' :: (symbol ++ '"' :: rest) ∧
        goal ⟨'"' :: (symbol ++ ['"']), [], rest⟩ := by
  simp only [symbolPattern, Pattern.leads_all_cons, Pattern.leads_all_nil, Pattern.leads_literal,
    Pattern.leads_many, Way.then, forall_ne_mark_iff]
  constructor
  · rintro ⟨_, rfl, symbol, _, within, rfl, rest, rfl, reached⟩
    exact ⟨symbol, rest, within, rfl, reached⟩
  · rintro ⟨symbol, rest, within, rfl, reached⟩
    exact ⟨_, rfl, symbol, _, within, rfl, rest, rfl, reached⟩

/-- A match begins and ends with a mark, and has no other one. -/
theorem mem_ways_symbolPattern {way : Way} :
    way ∈ symbolPattern.ways behind ahead ↔
      ∃ symbol rest, '"' ∉ symbol ∧ ahead = '"' :: (symbol ++ '"' :: rest) ∧
        way = ⟨'"' :: (symbol ++ ['"']), [], rest⟩ := by
  have leads : symbolPattern.Leads behind ahead (way = ·) ↔ way ∈ symbolPattern.ways behind ahead := by
    simp [Pattern.Leads]
  exact leads.symm.trans symbolPattern_leads

theorem symbolPattern_fails (outside : '"' ∉ gap) :
    ∀ c ∈ gap, ∀ behind rest, symbolPattern.ways behind (c :: rest) = [] := by
  intro c member behind rest
  refine List.eq_nil_iff_forall_not_mem.mpr fun way among => ?_
  obtain ⟨symbol, later, -, same, -⟩ := mem_ways_symbolPattern.mp among
  obtain ⟨rfl, -⟩ := List.cons.inj same
  exact outside member

theorem search?_symbolPattern_of_not_mem (outside : '"' ∉ gap) (behind : List Char) :
    symbolPattern.search? behind gap = none := by
  have searched := Pattern.search?_append (symbolPattern_fails outside) behind []
  rw [List.append_nil] at searched
  rw [searched]
  rfl

theorem search?_symbolPattern_unclosed {inside : List Char} (outside : '"' ∉ gap) (alone : '"' ∉ inside)
    (behind : List Char) : symbolPattern.search? behind (gap ++ '"' :: inside) = none := by
  have opening : symbolPattern.ways (behind ++ gap) ('"' :: inside) = [] := by
    refine List.eq_nil_iff_forall_not_mem.mpr fun way among => ?_
    obtain ⟨symbol, rest, -, same, -⟩ := mem_ways_symbolPattern.mp among
    obtain ⟨-, rfl⟩ := List.cons.inj same
    exact alone (by simp)
  rw [Pattern.search?_append (symbolPattern_fails outside), Pattern.search?, opening]
  simp [search?_symbolPattern_of_not_mem alone]

theorem search?_symbolPattern_quoted (outside : '"' ∉ gap) (within : '"' ∉ symbol) (behind rest : List Char) :
    symbolPattern.search? behind (gap ++ '"' :: (symbol ++ '"' :: rest)) =
      some (gap, ⟨'"' :: (symbol ++ ['"']), [], rest⟩) := by
  have first : symbolPattern.search? (behind ++ gap) ('"' :: (symbol ++ '"' :: rest)) =
      some ([], ⟨'"' :: (symbol ++ ['"']), [], rest⟩) := by
    refine Pattern.search?_of_forall (mem_ways_symbolPattern.mpr ⟨symbol, rest, within, rfl, rfl⟩) ?_
    intro other among
    obtain ⟨symbol', rest', within', same, rfl⟩ := mem_ways_symbolPattern.mp among
    obtain ⟨rfl, rfl⟩ := eq_of_append_mark within within' (List.cons.inj same).2
    rfl
  rw [Pattern.search?_append (symbolPattern_fails outside), first]
  simp

/-! Going through the matches -/

/-- The matches without their marks, up to the first one with something else than separators in front. -/
def symbolsOf : List (List Char × List Char) → Except LineFault (List (List Char))
  | [] => .ok []
  | (gap, quoted) :: later =>
    let symbol := (quoted.drop 1).dropLast
    if gap.all isSeparator then (symbolsOf later).map (symbol :: ·)
    else .error (.unquotedBefore (String.ofList symbol))

theorem exists_successive (behind body : List Char) :
    ∃ found left, symbolPattern.Successive behind body found left ∧
      readQuoted body = (symbolsOf found).map fun symbols => (symbols, left) := by
  induction body using quotation_induction generalizing behind with
  | plain text without =>
    exact ⟨[], text, .done (search?_symbolPattern_of_not_mem without behind), readQuoted_of_not_mem without⟩
  | unclosed gap inside outside alone =>
    exact ⟨[], _, .done (search?_symbolPattern_unclosed outside alone behind),
      readQuoted_unclosed outside alone⟩
  | quoted gap symbol rest outside within ih =>
    obtain ⟨later, left, successive, read⟩ := ih (behind ++ gap ++ '"' :: (symbol ++ ['"']))
    refine ⟨_, left, .next (search?_symbolPattern_quoted outside within behind rest) (by simp) successive, ?_⟩
    rw [readQuoted_quoted outside within, read]
    simp only [symbolsOf, List.drop_succ_cons, List.drop_zero, List.dropLast_concat]
    split
    · cases symbolsOf later <;> rfl
    · rfl

/-- The quoted symbols of a body are the matches of the pattern, and behind the last match the rest is left. -/
theorem readQuoted_of_successive (successive : symbolPattern.Successive [] body found left) :
    readQuoted body = (symbolsOf found).map fun symbols => (symbols, left) := by
  obtain ⟨found', left', again, read⟩ := exists_successive [] body
  obtain ⟨rfl, rfl⟩ := successive.unique again
  exact read

end SentenceSampler.Grammar
