import Mathlib.Tactic.FieldSimp
import Mathlib.Tactic.NormNum
import Mathlib.Tactic.Ring
import EntityQuery.Proofs.Value

/-! Numbers are exact. A numeral denotes a rational number, which hangs on its digits and their
places alone. The value of an integer or a decimal is the number that is denoted, with as many
digits after the point; where that number does not fit, it is the text as it stands. What is written
for the value denotes the same number again. -/
namespace EntityQuery
open Lexeme Text Unicode

namespace Numeral

def digit (c : Char) : Nat :=
  c.toNat - '0'.toNat

def placed : Text → Nat
  | [] => 0
  | c :: rest => digit c * 10 ^ rest.length + placed rest

def sign : Text → Int
  | '-' :: _ => -1
  | _ => 1

def unsigned : Text → Text
  | '-' :: rest => rest
  | text => text

def whole (text : Text) : Text :=
  (unsigned text).takeWhile (· ≠ '.')

def fraction (text : Text) : Text :=
  ((unsigned text).dropWhile (· ≠ '.')).drop 1

def places (text : Text) : Nat :=
  (fraction text).length

/-- The number that the digits form without a point between them. -/
def coefficient (text : Text) : Nat :=
  placed (whole text ++ fraction text)

def denoted (text : Text) : ℚ :=
  sign text * (placed (whole text) + placed (fraction text) / 10 ^ places text)

theorem ofDigitChars_eq (ds : Text) (init : Nat) :
    Nat.ofDigitChars 10 ds init = init * 10 ^ ds.length + placed ds := by
  induction ds generalizing init with
  | nil => simp [placed]
  | cons c rest ih =>
    rw [Nat.ofDigitChars_cons, ih, placed, digit, List.length_cons]
    ring

theorem ofDigitChars_zero (ds : Text) : Nat.ofDigitChars 10 ds 0 = placed ds := by
  rw [ofDigitChars_eq, Nat.zero_mul, Nat.zero_add]

theorem placed_append (a b : Text) : placed (a ++ b) = placed a * 10 ^ b.length + placed b := by
  rw [← ofDigitChars_zero, Nat.ofDigitChars_append, ofDigitChars_eq, ofDigitChars_zero]

section Parts
variable (negative : Bool) {ds fr : Text}

theorem before_point (h : Digits ds) : ∀ c ∈ ds, decide (c ≠ '.') = true := by
  intro c hc
  simpa using ne_of_isDigit (h c hc) rfl

theorem unsigned_signed (h : Digits ds) (hn : ds ≠ []) (fr : Text) :
    sign (Decimal.signOf negative ++ ds ++ fr) = (if negative then -1 else 1) ∧
      unsigned (Decimal.signOf negative ++ ds ++ fr) = ds ++ fr := by
  cases ds with
  | nil => exact absurd rfl hn
  | cons c rest =>
    have hc : c ≠ '-' := ne_of_isDigit (h c (by simp)) rfl
    cases negative with
    | true => exact ⟨rfl, rfl⟩
    | false => simp [Decimal.signOf, sign, unsigned, hc]

theorem whole_signed (h : Digits ds) (hn : ds ≠ []) (hf : IsFraction fr) :
    whole (Decimal.signOf negative ++ ds ++ fr) = ds := by
  rw [whole, (unsigned_signed negative h hn fr).2]
  refine takeWhile_append_ends (before_point h) ?_
  intro c hc
  rcases hf with rfl | ⟨es, rfl, -, -⟩
  · simp at hc
  · obtain rfl : '.' = c := by simpa using hc
    rfl

theorem fraction_signed (h : Digits ds) (hn : ds ≠ []) (hf : IsFraction fr) :
    fraction (Decimal.signOf negative ++ ds ++ fr) = fr.drop 1 := by
  rw [fraction, (unsigned_signed negative h hn fr).2,
    List.dropWhile_append_of_pos (before_point h)]
  rcases hf with rfl | ⟨es, rfl, -, -⟩
  · rfl
  · rfl

end Parts

theorem denoted_eq (text : Text) :
    denoted text = ((sign text * coefficient text : Int) : ℚ) / 10 ^ places text := by
  have hp : (10 : ℚ) ^ places text ≠ 0 := pow_ne_zero _ (by norm_num)
  rw [denoted, coefficient, placed_append, ← places]
  push_cast
  field_simp

theorem natAbs_sign (text : Text) (n : Nat) : (sign text * (n : Int)).natAbs = n := by
  unfold sign
  split
  · simp
  · simp

theorem signed?_eq {text : Text} (h : IsWhole text) :
    places text = 0 ∧ signed? text = some (sign text * coefficient text) := by
  obtain ⟨negative, ds, rfl, hn, hd⟩ := Decimal.exists_sign h
  have hs := (unsigned_signed negative hd hn []).1
  have hw := whole_signed negative hd hn (.inl rfl)
  have hf := fraction_signed negative hd hn (.inl rfl)
  rw [List.append_nil] at hs hw hf
  have hc : coefficient (Decimal.signOf negative ++ ds) = placed ds := by
    rw [coefficient, hw, hf, List.drop_nil, List.append_nil]
  refine ⟨by rw [places, hf]; rfl, ?_⟩
  rw [hs, hc, ← ofDigitChars_zero]
  cases negative with
  | true => simpa [Decimal.signOf] using signed?_minus hd hn
  | false => simpa [Decimal.signOf] using signed?_digits hd hn

theorem ofText?_eq {text : Text} (h : Spelled .decimal text) :
    Decimal.ofText? text =
      if places text ≤ 28 then Decimal.ofParts? (sign text * coefficient text) (places text)
      else none := by
  obtain ⟨w, ds, hw, hn, hd, rfl⟩ := h.point
  obtain ⟨negative, digits, rfl, hwn, hwd⟩ := Decimal.exists_sign hw
  have hfr : IsFraction ('.' :: ds) := .inr ⟨ds, rfl, hn, hd⟩
  have hs := (unsigned_signed negative hwd hwn ('.' :: ds)).1
  have hf : fraction _ = ds := fraction_signed negative hwd hwn hfr
  have hc := whole_signed negative hwd hwn hfr
  rw [Decimal.ofText?_point negative hwd hwn hd, places, coefficient, hs, hf, hc, ofDigitChars_zero]
  cases negative <;> simp [Decimal.signed]

def rational (d : Decimal) : ℚ :=
  d.mantissa / 10 ^ d.scale

theorem cast_of_signed? {text : Text} (h : IsWhole text) {n : Int} (hn : signed? text = some n) :
    (n : ℚ) = denoted text ∧ places text = 0 := by
  obtain ⟨hp, hs⟩ := signed?_eq h
  obtain rfl : sign text * coefficient text = n := Option.some.inj (hs.symm.trans hn)
  refine ⟨?_, hp⟩
  rw [denoted_eq, hp, pow_zero, div_one]

theorem exists_integer? {text : Text} (h : IsWhole text) :
    (∃ n, integer? text = some n) ↔ -2 ^ 63 ≤ denoted text ∧ denoted text < 2 ^ 63 := by
  obtain ⟨-, hs⟩ := signed?_eq h
  rw [← (cast_of_signed? h hs).1, integer?, hs, Option.filter_some]
  norm_cast
  simp

theorem rational_of_ofText? {text : Text} (h : Spelled .decimal text) {d : Decimal}
    (hd : Decimal.ofText? text = some d) : rational d = denoted text ∧ d.scale = places text := by
  rw [ofText?_eq h] at hd
  split at hd
  · obtain ⟨hm, hs⟩ := Decimal.ofParts?_scale hd
    exact ⟨by rw [rational, hm, hs, denoted_eq], hs⟩
  · cases hd

theorem exists_ofText? {text : Text} (h : Spelled .decimal text) :
    (∃ d, Decimal.ofText? text = some d) ↔ places text ≤ 28 ∧ coefficient text < 2 ^ 96 := by
  rw [ofText?_eq h]
  by_cases hp : places text ≤ 28
  · simp [hp, Decimal.ofParts?, natAbs_sign]
  · simp [hp]

/-- What is written for the value of a numeral is a numeral of its kind that denotes the same, with
as many digits after the point, and is of the same value. -/
def Kept (kind : LiteralKind) (text : Text) : Prop :=
  let value := Value.ofNode (.literal kind) text
  denoted value.render = denoted text ∧ places value.render = places text ∧
    Lexeme.ofText value.render = [.literal kind value.render] ∧
    Value.ofNode (.literal kind) value.render = value

theorem kept_of_denoted {kind : LiteralKind} {text : Text} (h : Spelled kind text)
    (hd : denoted (Value.ofNode (.literal kind) text).render = denoted text ∧
      places (Value.ofNode (.literal kind) text).render = places text) : Kept kind text := by
  obtain ⟨hs, hv⟩ := Value.written_ofNode h
  exact ⟨hd.1, hd.2, hs.reads.ofText, hv⟩

theorem kept_integer {text : Text} (h : Spelled .integer text) : Kept .integer text := by
  apply kept_of_denoted h
  rw [Value.ofNode]
  cases hn : integer? text with
  | none => exact ⟨rfl, rfl⟩
  | some n =>
    have hs : signed? text = some n := (Option.filter_eq_some_iff.mp hn).1
    obtain ⟨hd, hp⟩ := cast_of_signed? h.whole hs
    obtain ⟨hd', hp'⟩ := cast_of_signed? (Value.isWhole_ofInt n) (signed?_ofInt n)
    exact ⟨hd'.symm.trans hd, hp'.trans hp.symm⟩

theorem kept_decimal {text : Text} (h : Spelled .decimal text) : Kept .decimal text := by
  apply kept_of_denoted h
  obtain ⟨hs, hv⟩ := Value.written_ofNode h
  rw [Value.ofNode] at hs ⊢
  cases hd : Decimal.ofText? text with
  | none => exact ⟨rfl, rfl⟩
  | some d =>
    rw [hd] at hs
    obtain ⟨hr, hp⟩ := rational_of_ofText? h hd
    obtain ⟨w, ds, hw, hn, hds, rfl⟩ := h.point
    have hz := Decimal.scale_ne_zero hw hn hds hd
    obtain ⟨hr', hp'⟩ := rational_of_ofText? hs (Decimal.ofText?_render hz)
    exact ⟨hr'.symm.trans hr, hp'.symm.trans hp⟩

end Numeral

namespace Value
open Numeral

/-- Numbers are exact or untouched. The value of an integer is the number that it denotes if that
has at most 64 bits with its sign; the value of a decimal is the number that it denotes, with as
many digits after the point, if these are at most 28 and all digits together have at most 96 bits;
and any other number is kept as the text that it is. In each case what is written for the value
denotes the same with as many digits after the point, and is read again as one number of that kind
and value. -/
theorem numbers_exact_or_untouched (source : Text) :
    (∀ text, .literal .integer text ∈ Lexeme.ofText source →
      (-2 ^ 63 ≤ denoted text ∧ denoted text < 2 ^ 63 →
        ∃ n : Int, ofNode (.literal .integer) text = int n ∧ n = denoted text) ∧
      (¬(-2 ^ 63 ≤ denoted text ∧ denoted text < 2 ^ 63) →
        ofNode (.literal .integer) text = unknown text ∧ (unknown text).render = text) ∧
      Kept .integer text) ∧
    ∀ text, .literal .decimal text ∈ Lexeme.ofText source →
      (places text ≤ 28 ∧ coefficient text < 2 ^ 96 →
        ∃ d, ofNode (.literal .decimal) text = num d ∧ rational d = denoted text ∧
          d.scale = places text) ∧
      (¬(places text ≤ 28 ∧ coefficient text < 2 ^ 96) →
        ofNode (.literal .decimal) text = unknown text ∧ (unknown text).render = text) ∧
      Kept .decimal text := by
  constructor
  · intro text hm
    have h := Lexeme.spelled_of_mem hm
    rw [← exists_integer? h.whole]
    refine ⟨?_, ?_, kept_integer h⟩
    · rintro ⟨n, hn⟩
      have hs : signed? text = some n := (Option.filter_eq_some_iff.mp hn).1
      exact ⟨n, by rw [ofNode, hn]; rfl, (cast_of_signed? h.whole hs).1⟩
    · intro hn
      refine ⟨?_, rfl⟩
      rw [ofNode, Option.eq_none_iff_forall_ne_some.mpr fun n he => hn ⟨n, he⟩]
      rfl
  · intro text hm
    have h := Lexeme.spelled_of_mem hm
    rw [← exists_ofText? h]
    refine ⟨?_, ?_, kept_decimal h⟩
    · rintro ⟨d, hd⟩
      exact ⟨d, by rw [ofNode, hd]; rfl, rational_of_ofText? h hd⟩
    · intro hn
      refine ⟨?_, rfl⟩
      rw [ofNode, Option.eq_none_iff_forall_ne_some.mpr fun d he => hn ⟨d, he⟩]
      rfl

theorem numbers_exact_or_untouched_limits :
    (∃ n : Int, ofNode (.literal .integer) "-9223372036854775808".toList = int n ∧
      n = denoted "-9223372036854775808".toList) ∧
    ofNode (.literal .integer) "9223372036854775808".toList =
      unknown "9223372036854775808".toList ∧
    ∃ d, ofNode (.literal .decimal) "-0.10".toList = num d ∧
      rational d = denoted "-0.10".toList ∧ d.scale = 2 := by
  obtain ⟨hi, hd⟩ := numbers_exact_or_untouched
    "a = -9223372036854775808 OR a = 9223372036854775808 OR a = -0.10".toList
  refine ⟨(hi _ (by decide +kernel)).1 (by decide +kernel),
    ((hi _ (by decide +kernel)).2.1 (by decide +kernel)).1,
    (hd _ (by decide +kernel)).1 (by decide +kernel)⟩

end Value
end EntityQuery
