import Mathlib.Algebra.Group.Nat.Defs
import EntityQuery.Proofs.Unicode
import EntityQuery.Text.Numeral

/-! Numbers in decimal notation: what is written is read again as the same number, and a run of
digits ends where the first other character stands. -/
namespace EntityQuery.Text
open Unicode

def Digits (text : Text) : Prop :=
  ∀ c ∈ text, c.isDigit = true

theorem Digits.append {a b : Text} (ha : Digits a) (hb : Digits b) : Digits (a ++ b) :=
  List.forall_mem_append.mpr ⟨ha, hb⟩

section Blank

theorem trimStart_cons {c : Char} (h : isBlank c = false) (rest : Text) :
    trimStart (c :: rest) = c :: rest := by
  simp [trimStart, h]

theorem trimStart_of_not_blank {text : Text} (h : ∀ c ∈ text, isBlank c = false) :
    trimStart text = text := by
  cases text with
  | nil => rfl
  | cons c rest => exact trimStart_cons (h c (by simp)) rest

theorem trim_of_not_blank {text : Text} (h : ∀ c ∈ text, isBlank c = false) :
    trim text = text := by
  rw [trim, trimStart_of_not_blank h, trimStart_of_not_blank fun c hc =>
    h c (List.mem_reverse.mp hc), List.reverse_reverse]

theorem Digits.not_blank {ds : Text} (h : Digits ds) : ∀ c ∈ ds, isBlank c = false :=
  fun c hc => not_isBlank_of_isDigit (h c hc)

end Blank

theorem digits_ofNat (n : Nat) : Digits (ofNat n) :=
  fun _ hc => Nat.isDigit_of_mem_toDigits (by decide) (by decide) hc

theorem ofNat_ne_nil (n : Nat) : ofNat n ≠ [] :=
  Nat.toDigits_ne_nil

theorem ofDigitChars_ofNat (n : Nat) : Nat.ofDigitChars 10 (ofNat n) 0 = n :=
  Nat.ofDigitChars_ten_toDigits

theorem ofNatWide_eq (width n : Nat) :
    ofNatWide width n = List.replicate (width - (ofNat n).length) '0' ++ ofNat n := rfl

theorem digits_ofNatWide (width n : Nat) : Digits (ofNatWide width n) := by
  rw [ofNatWide_eq]
  refine Digits.append (fun c hc => ?_) (digits_ofNat n)
  rw [(List.mem_replicate.mp hc).2]
  rfl

theorem ofDigitChars_ofNatWide (width n : Nat) :
    Nat.ofDigitChars 10 (ofNatWide width n) 0 = n := by
  rw [ofNatWide_eq, Nat.ofDigitChars_append, Nat.ofDigitChars_replicate_zero, Nat.mul_zero,
    ofDigitChars_ofNat]

theorem le_length_ofNatWide (width n : Nat) : width ≤ (ofNatWide width n).length := by
  rw [ofNatWide_eq, List.length_append, List.length_replicate]
  omega

theorem length_ofNatWide {width n : Nat} (hw : 0 < width) (h : n < 10 ^ width) :
    (ofNatWide width n).length = width := by
  have hl : (ofNat n).length ≤ width := (Nat.length_toDigits_le_iff (by decide) hw).mpr h
  rw [ofNatWide_eq, List.length_append, List.length_replicate]
  omega

theorem ofDigitChars_lt {ds : Text} (h : Digits ds) (init : Nat) :
    Nat.ofDigitChars 10 ds init < 10 ^ ds.length * (init + 1) := by
  induction ds generalizing init with
  | nil => simp
  | cons c rest ih =>
    obtain ⟨hl, hh⟩ := isDigit_bounds (h c (by simp))
    have hr := ih (fun d hd => h d (List.mem_cons_of_mem c hd)) (10 * init + (c.toNat - '0'.toNat))
    have hz : '0'.toNat = 48 := rfl
    rw [Nat.ofDigitChars_cons]
    refine Nat.lt_of_lt_of_le hr ?_
    rw [List.length_cons, Nat.pow_succ, Nat.mul_assoc]
    exact Nat.mul_le_mul_left _ (by omega)

theorem digits?_digits {ds : Text} (h : Digits ds) (hn : ds ≠ []) :
    digits? ds = some (Nat.ofDigitChars 10 ds 0) := by
  have hd : (!ds.isEmpty && ds.all Char.isDigit) = true := by
    simpa [hn, Digits] using h
  rw [digits?, if_pos hd]

theorem unsigned?_digits {ds : Text} (h : Digits ds) (hn : ds ≠ []) :
    unsigned? ds = some (Nat.ofDigitChars 10 ds 0) := by
  unfold unsigned?
  split
  · exact absurd (h '+' (by simp)) (by decide)
  · exact digits?_digits h hn

theorem signed?_digits {ds : Text} (h : Digits ds) (hn : ds ≠ []) :
    signed? ds = some (Nat.ofDigitChars 10 ds 0 : Int) := by
  unfold signed?
  split
  · exact absurd (h '-' (by simp)) (by decide)
  · rw [unsigned?_digits h hn]
    rfl

theorem signed?_minus {ds : Text} (h : Digits ds) (hn : ds ≠ []) :
    signed? ('-' :: ds) = some (-(Nat.ofDigitChars 10 ds 0 : Int)) := by
  rw [signed?, digits?_digits h hn]
  rfl

theorem signed?_ofInt (n : Int) : signed? (ofInt n) = some n := by
  cases n with
  | ofNat n =>
    rw [ofInt, signed?_digits (digits_ofNat n) (ofNat_ne_nil n), ofDigitChars_ofNat]
    rfl
  | negSucc n =>
    rw [ofInt, signed?_minus (digits_ofNat _) (ofNat_ne_nil _), ofDigitChars_ofNat]
    rfl

theorem count?_ofNat {n : Nat} (h : n < UInt64.size) : count? (ofNat n) = some n := by
  rw [count?, unsigned?_digits (digits_ofNat n) (ofNat_ne_nil n), ofDigitChars_ofNat]
  simpa using h

theorem count?_lt {text : Text} {n : Nat} (h : count? text = some n) : n < UInt64.size := by
  simpa using (Option.filter_eq_some_iff.mp h).2

theorem integer?_ofInt {n : Int} (h : -0x8000000000000000 ≤ n ∧ n < 0x8000000000000000) :
    integer? (ofInt n) = some n := by
  rw [integer?, signed?_ofInt]
  simpa using h

theorem integer?_bounds {text : Text} {n : Int} (h : integer? text = some n) :
    -0x8000000000000000 ≤ n ∧ n < 0x8000000000000000 := by
  simpa using (Option.filter_eq_some_iff.mp h).2

theorem digitRun_append {ds tail : Text} (h : Digits ds)
    (ht : ∀ c ∈ tail.head?, c.isDigit = false) : digitRun (ds ++ tail) = ds.length := by
  induction ds with
  | nil =>
    cases tail with
    | nil => rfl
    | cons c rest => simp [digitRun, ht c (by simp)]
  | cons c rest ih =>
    rw [List.cons_append, digitRun, if_pos (h c (by simp)),
      ih fun d hd => h d (List.mem_cons_of_mem c hd), List.length_cons]

theorem exists_digitRun (text : Text) :
    ∃ ds tail, text = ds ++ tail ∧ Digits ds ∧ digitRun text = ds.length := by
  induction text with
  | nil => exact ⟨[], [], rfl, by simp [Digits], rfl⟩
  | cons c rest ih =>
    by_cases hc : c.isDigit
    · obtain ⟨ds, tail, rfl, hd, hl⟩ := ih
      refine ⟨c :: ds, tail, rfl, List.forall_mem_cons.mpr ⟨hc, hd⟩, ?_⟩
      rw [digitRun, if_pos hc, hl, List.length_cons]
    · exact ⟨[], c :: rest, rfl, by simp [Digits], by simp [digitRun, hc]⟩

theorem digitRun_le (text : Text) : digitRun text ≤ text.length := by
  obtain ⟨ds, tail, rfl, -, hl⟩ := exists_digitRun text
  simp [hl]

def IsFraction (text : Text) : Prop :=
  text = [] ∨ ∃ ds, text = '.' :: ds ∧ ds ≠ [] ∧ Digits ds

theorem fractionLength_append {fr tail : Text} (h : IsFraction fr)
    (ht : ∀ c ∈ tail.head?, c.isDigit = false ∧ c ≠ '.') :
    fractionLength (fr ++ tail) = fr.length := by
  rcases h with rfl | ⟨ds, rfl, hn, hd⟩
  · unfold fractionLength
    split
    · exact absurd rfl (ht '.' (by simp_all)).2
    · rfl
  · have hr := digitRun_append hd fun c hc => (ht c hc).1
    have hl : ds.length ≠ 0 := fun he => hn (List.length_eq_zero_iff.mp he)
    rw [List.cons_append, fractionLength, hr, if_neg hl, List.length_cons]

theorem exists_fraction (text : Text) :
    ∃ fr tail, text = fr ++ tail ∧ IsFraction fr ∧ fractionLength text = fr.length := by
  unfold fractionLength
  split
  · rename_i rest
    obtain ⟨ds, tail, rfl, hd, hl⟩ := exists_digitRun rest
    by_cases hn : ds = []
    · subst hn
      exact ⟨[], _, rfl, .inl rfl, by rw [hl]; rfl⟩
    · refine ⟨'.' :: ds, tail, rfl, .inr ⟨ds, rfl, hn, hd⟩, ?_⟩
      rw [hl, if_neg fun he => hn (List.length_eq_zero_iff.mp he), List.length_cons]
  · exact ⟨[], text, rfl, .inl rfl, rfl⟩

theorem fractionLength_le (text : Text) : fractionLength text ≤ text.length := by
  obtain ⟨fr, tail, rfl, -, hl⟩ := exists_fraction text
  simp [hl]

end EntityQuery.Text
