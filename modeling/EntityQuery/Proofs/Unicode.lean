import Mathlib.Data.List.Basic
import EntityQuery.Unicode.Alphabetic
import EntityQuery.Unicode.Blank

/-! Where the characters of a class stand in the code. -/
namespace EntityQuery.Unicode

theorem exists_range {ranges : List (Nat × Nat)} {n : Nat} (h : inRanges ranges n = true) :
    ∃ range ∈ ranges, range.1 ≤ n ∧ n ≤ range.2 := by
  induction ranges with
  | nil => simp [inRanges] at h
  | cons range rest ih =>
    by_cases hl : n < range.1
    · simp [inRanges, hl] at h
    · rw [inRanges, if_neg hl, Bool.or_eq_true, decide_eq_true_eq] at h
      rcases h with h | h
      · exact ⟨range, by simp, by omega, h⟩
      · obtain ⟨other, ho, hb⟩ := ih h
        exact ⟨other, List.mem_cons_of_mem _ ho, hb⟩

def blankCodes : List Nat :=
  blankRanges.flatMap fun (lo, hi) => (List.range (hi + 1 - lo)).map (lo + ·)

variable {c : Char}

theorem mem_blankCodes (h : isBlank c = true) : c.toNat ∈ blankCodes := by
  obtain ⟨range, hr, hl, hh⟩ := exists_range h
  have hn : c.toNat - range.1 ∈ List.range (range.2 + 1 - range.1) :=
    List.mem_range.mpr (by omega)
  exact List.mem_flatMap.mpr ⟨range, hr, List.mem_map.mpr ⟨_, hn, by omega⟩⟩

theorem le_of_isAlphabetic (h : isAlphabetic c = true) : 0x41 ≤ c.toNat := by
  have hl : ∀ range ∈ alphabeticRanges, 0x41 ≤ range.1 := by decide +kernel
  obtain ⟨range, hr, hc, -⟩ := exists_range h
  exact Nat.le_trans (hl range hr) hc

theorem isDigit_bounds (h : c.isDigit = true) : 0x30 ≤ c.toNat ∧ c.toNat ≤ 0x39 := by
  simpa [Char.isDigit, UInt32.le_iff_toNat_le] using h

theorem ne_of_isDigit {mark : Char} (h : c.isDigit = true) (hm : mark.isDigit = false) :
    c ≠ mark := by
  rintro rfl
  rw [h] at hm
  cases hm

theorem not_isBlank_of_isDigit (h : c.isDigit = true) : isBlank c = false := by
  have hd : ∀ n ∈ blankCodes, ¬(0x30 ≤ n ∧ n ≤ 0x39) := by decide
  cases hb : isBlank c with
  | false => rfl
  | true => exact absurd (isDigit_bounds h) (hd _ (mem_blankCodes hb))

end EntityQuery.Unicode
