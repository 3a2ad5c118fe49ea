import EntityQuery.Proofs.Lexeme.Literal
import EntityQuery.Proofs.Query.Meaning

/-! The texts that are row counts of a paging clause. Among the integer literals they are those
without a sign whose number has at most 64 bits. -/
namespace EntityQuery

namespace Text

/-- Whether the text is a row count between blanks: digits, perhaps after a plus sign, that denote
a number of at most 64 bits. -/
def IsRowCount (text : Text) : Prop :=
  ∃ ds, ds ≠ [] ∧ Digits ds ∧ (text.trim = ds ∨ text.trim = '+' :: ds) ∧
    Nat.ofDigitChars 10 ds 0 ≤ 18446744073709551615

theorem digits?_eq_some {text : Text} {n : Nat} :
    digits? text = some n ↔ text ≠ [] ∧ Digits text ∧ Nat.ofDigitChars 10 text 0 = n := by
  rw [digits?]
  by_cases h : (!text.isEmpty && text.all Char.isDigit) = true
  · have hd : text ≠ [] ∧ Digits text := by simpa [Digits] using h
    simp [h, hd]
  · have hd : ¬(text ≠ [] ∧ Digits text) := by simpa [Digits] using h
    rw [← and_assoc]
    simp [h, hd]

theorem unsigned?_eq_some {text : Text} {n : Nat} :
    unsigned? text = some n ↔ ∃ ds, ds ≠ [] ∧ Digits ds ∧ (text = ds ∨ text = '+' :: ds) ∧
      Nat.ofDigitChars 10 ds 0 = n := by
  unfold unsigned?
  split
  · rename_i rest
    rw [digits?_eq_some]
    constructor
    · exact fun ⟨hn, hd, hv⟩ => ⟨rest, hn, hd, .inr rfl, hv⟩
    · rintro ⟨ds, hn, hd, rfl | h, hv⟩
      · exact absurd (hd '+' (by simp)) (by decide)
      · obtain ⟨-, rfl⟩ := List.cons.inj h
        exact ⟨hn, hd, hv⟩
  · rename_i hplus
    rw [digits?_eq_some]
    constructor
    · exact fun ⟨hn, hd, hv⟩ => ⟨text, hn, hd, .inl rfl, hv⟩
    · rintro ⟨ds, hn, hd, rfl | rfl, hv⟩
      · exact ⟨hn, hd, hv⟩
      · exact absurd rfl (hplus ds)

theorem rowCount?_isSome {text : Text} : (rowCount? text).isSome ↔ IsRowCount text := by
  rw [Option.isSome_iff_exists, IsRowCount]
  simp only [rowCount?, count?, Option.filter_eq_some_iff, unsigned?_eq_some, decide_eq_true_eq]
  constructor
  · rintro ⟨n, ⟨ds, hn, hd, ht, rfl⟩, hs⟩
    exact ⟨ds, hn, hd, ht, Nat.le_of_lt_succ hs⟩
  · rintro ⟨ds, hn, hd, ht, hv⟩
    exact ⟨_, ⟨ds, hn, hd, ht, rfl⟩, Nat.lt_succ_of_le hv⟩

/-- An integer literal is a row count unless it has a minus sign or is too large. -/
theorem isRowCount_whole {text : Text} (h : Lexeme.IsWhole text) :
    IsRowCount text ↔
      text.head? ≠ some '-' ∧ Nat.ofDigitChars 10 text 0 ≤ 18446744073709551615 := by
  obtain ⟨c, ds, rfl, hc, hd⟩ := h
  have hb : ∀ d ∈ c :: ds, Unicode.isBlank d = false := by
    refine List.forall_mem_cons.mpr ⟨?_, hd.not_blank⟩
    rcases hc with hc | ⟨rfl, -⟩
    · exact Unicode.not_isBlank_of_isDigit hc
    · rfl
  rw [IsRowCount, trim_of_not_blank hb]
  rcases hc with hc | ⟨rfl, hn⟩
  · have hall : Digits (c :: ds) := List.forall_mem_cons.mpr ⟨hc, hd⟩
    constructor
    · rintro ⟨es, -, -, rfl | h, hv⟩
      · exact ⟨by simpa using Unicode.ne_of_isDigit hc rfl, hv⟩
      · obtain ⟨rfl, -⟩ := List.cons.inj h
        cases hc
    · exact fun ⟨_, hv⟩ => ⟨c :: ds, by simp, hall, .inl rfl, hv⟩
  · constructor
    · rintro ⟨es, -, he, rfl | h, -⟩
      · exact absurd (he '-' (by simp)) (by decide)
      · exact absurd (List.cons.inj h).1 (by decide)
    · exact fun ⟨hh, _⟩ => absurd rfl hh

end Text
end EntityQuery
