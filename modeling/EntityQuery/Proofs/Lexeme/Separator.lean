import EntityQuery.Lexeme.OfText
import EntityQuery.Proofs.Unicode

/-! The characters that end a word or a literal wherever they stand: the blanks, the comma and the
closing bracket. No other rule of the lexemes goes on with one of them. -/
namespace EntityQuery
open Unicode

namespace Lexeme

def separates (c : Char) : Bool :=
  isBlank c || c == ',' || c == ')'

/-- Whether a text ends what stands before it: there is nothing more, or a separator comes next. -/
def Ends (tail : Text) : Prop :=
  ∀ c ∈ tail.head?, separates c = true

theorem ends_nil : Ends [] := by
  simp [Ends]

theorem ends_cons {c : Char} {rest : Text} : Ends (c :: rest) ↔ separates c = true := by
  simp [Ends]

theorem ends_space (rest : Text) : Ends (' ' :: rest) :=
  ends_cons.mpr (by decide)

theorem Ends.append {text tail : Text} (h : Ends text) (ht : Ends tail) : Ends (text ++ tail) := by
  cases text with
  | nil => exact ht
  | cons c rest => exact ends_cons.mpr (ends_cons.mp h)

def separatorCodes : List Nat :=
  ','.toNat :: ')'.toNat :: blankCodes

theorem mem_separatorCodes {c : Char} (h : separates c = true) : c.toNat ∈ separatorCodes := by
  simp only [separates, Bool.or_eq_true, beq_iff_eq] at h
  rcases h with (h | rfl) | rfl
  · exact List.mem_cons_of_mem _ (List.mem_cons_of_mem _ (mem_blankCodes h))
  · exact List.mem_cons_self
  · exact List.mem_cons_of_mem _ List.mem_cons_self

/-- The marks that a lexeme may go on with after its first character. -/
def marks : Text :=
  ['=', '>', '[', '\'', '"', '+', '-', '.', '_', 'T', 'Z']

theorem separatorCodes_apart : ∀ n ∈ separatorCodes,
    inRanges alphabeticRanges n = false ∧ inRanges numberRanges n = false ∧
      n ∉ marks.map Char.toNat ∧ ¬(0x30 ≤ n ∧ n ≤ 0x39) := by
  decide +kernel

variable {c : Char}

theorem ne_of_separates (h : separates c = true) {mark : Char} (hm : mark ∈ marks) : c ≠ mark := by
  rintro rfl
  exact (separatorCodes_apart _ (mem_separatorCodes h)).2.2.1 (List.mem_map_of_mem hm)

theorem Ends.head?_ne {tail : Text} (h : Ends tail) {mark : Char} (hm : mark ∈ marks) :
    tail.head? ≠ some mark :=
  fun he => ne_of_separates (h mark he) hm rfl

theorem not_continuesWord (h : separates c = true) : continuesWord c = false := by
  obtain ⟨ha, hn, -⟩ := separatorCodes_apart _ (mem_separatorCodes h)
  have hu : c ≠ '_' := ne_of_separates h (by decide)
  have hp : c ≠ '.' := ne_of_separates h (by decide)
  simp [continuesWord, isAlphabetic, isNumber, ha, hn, hu, hp]

theorem not_isDigit_of_separates (h : separates c = true) : c.isDigit = false := by
  cases hd : c.isDigit with
  | false => rfl
  | true => exact absurd (isDigit_bounds hd) (separatorCodes_apart _ (mem_separatorCodes h)).2.2.2

theorem le_of_startsWord (h : startsWord c = true) : 0x41 ≤ c.toNat := by
  simp only [startsWord, Bool.or_eq_true, beq_iff_eq] at h
  rcases h with h | rfl
  · exact le_of_isAlphabetic h
  · decide

theorem continuesWord_of_startsWord (h : startsWord c = true) : continuesWord c = true := by
  simp only [startsWord, Bool.or_eq_true] at h
  rcases h with h | h <;> simp [continuesWord, h]

theorem not_isBlank_of_startsWord (h : startsWord c = true) : isBlank c = false := by
  have hc := continuesWord_of_startsWord h
  cases hb : isBlank c with
  | false => rfl
  | true => simp [not_continuesWord (c := c) (by simp [separates, hb])] at hc

end Lexeme
end EntityQuery
