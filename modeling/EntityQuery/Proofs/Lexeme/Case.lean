import Mathlib.Data.List.Basic
import EntityQuery.Proofs.Lexeme.OfText

/-! The case of letters. Words that differ in nothing else are words together, and the same keyword
if one of them is a keyword. -/
namespace EntityQuery
open Text Unicode

namespace Text
variable {a b c : Text}

theorem sameWord_iff : sameWord a b = true ↔ asciiLower a = asciiLower b :=
  beq_iff_eq

theorem sameWord_trans (hab : sameWord a b = true) (hbc : sameWord b c = true) :
    sameWord a c = true :=
  sameWord_iff.mpr ((sameWord_iff.mp hab).trans (sameWord_iff.mp hbc))

theorem toLower_cases (c : Char) : c.toLower = c ∨
    0x41 ≤ c.toNat ∧ c.toNat ≤ 0x5A ∧ c.toLower.toNat = c.toNat + 0x20 := by
  unfold Char.toLower
  split
  · rename_i h
    have hc : 0x41 ≤ c.toNat ∧ c.toNat ≤ 0x5A := by simpa [UInt32.le_iff_toNat_le] using h
    refine .inr ⟨hc.1, hc.2, ?_⟩
    simp [UInt32.toNat_add]
    omega
  · exact .inl rfl

theorem eq_of_sameWord (h : sameWord a b = true) (ha : ∀ c ∈ a, c.toNat < 0x41) : b = a := by
  rw [sameWord_iff, asciiLower, asciiLower] at h
  induction a generalizing b with
  | nil => simpa using h.symm
  | cons c rest ih =>
    obtain ⟨hc, hr⟩ := List.forall_mem_cons.mp ha
    cases b with
    | nil => cases h
    | cons d more =>
      obtain ⟨hd, hm⟩ := List.cons.inj h
      have hcl : c.toLower = c := (toLower_cases c).resolve_right fun hl => by omega
      have hdl : d.toLower = d := (toLower_cases d).resolve_right fun hl => by
        rw [← hd, hcl] at hl
        omega
      rw [← hdl, ← hd, hcl, ih hm hr]

end Text

namespace Lexeme

theorem startsWord_of_letter {c : Char}
    (h : 0x41 ≤ c.toNat ∧ c.toNat ≤ 0x5A ∨ 0x61 ≤ c.toNat ∧ c.toNat ≤ 0x7A) :
    startsWord c = true := by
  have hl : ∀ n < 0x7B, 0x41 ≤ n ∧ n ≤ 0x5A ∨ 0x61 ≤ n ∧ n ≤ 0x7A →
      inRanges alphabeticRanges n = true := by
    decide +kernel
  rw [startsWord, isAlphabetic, hl _ (by omega) h]
  rfl

theorem startsWord_toLower (c : Char) : startsWord c.toLower = startsWord c := by
  obtain h | ⟨hl, hh, hn⟩ := toLower_cases c
  · rw [h]
  · rw [startsWord_of_letter (.inl ⟨hl, hh⟩), startsWord_of_letter (.inr (by omega))]

theorem continuesWord_toLower (c : Char) : continuesWord c.toLower = continuesWord c := by
  obtain h | ⟨hl, hh, hn⟩ := toLower_cases c
  · rw [h]
  · rw [continuesWord_of_startsWord (startsWord_of_letter (.inl ⟨hl, hh⟩)),
      continuesWord_of_startsWord (startsWord_of_letter (.inr (by omega)))]

theorem isWord_asciiLower (text : Text) : isWord (asciiLower text) = isWord text := by
  cases text with
  | nil => rfl
  | cons c rest =>
    simp only [asciiLower, List.map_cons, isWord, startsWord_toLower, List.all_map]
    congr 2
    exact funext continuesWord_toLower

theorem ofWord_sameWord {a b : Text} (h : sameWord a b = true) (hn : (ofWord a).text? = none) :
    ofWord b = ofWord a := by
  have hk (keyword : String) : sameWord keyword.toList b = sameWord keyword.toList a := by
    rw [sameWord, sameWord, sameWord_iff.mp h]
  unfold ofWord at hn ⊢
  simp only [hk]
  split
  · rfl
  · rename_i hf
    simp only [hf] at hn
    split at hn <;> cases hn

end Lexeme
end EntityQuery
