import EntityQuery.Decimal
import EntityQuery.Proofs.Lexeme.Literal

/-! Decimal numbers are read with their scale, and what is written is read again as the same
number. -/
namespace EntityQuery.Decimal
open Text Lexeme Unicode

theorem readFrom_whole {ds : Text} (h : Digits ds) (digits : Bool) (mantissa : Nat) (rest : Text) :
    readFrom false digits mantissa 0 (ds ++ rest) =
      readFrom false (digits || !ds.isEmpty) (Nat.ofDigitChars 10 ds mantissa) 0 rest := by
  induction ds generalizing digits mantissa with
  | nil => simp
  | cons c ds ih =>
    rw [List.cons_append, readFrom, if_neg (by decide), if_pos (h c (by simp)), if_neg (by decide),
      ih fun d hd => h d (List.mem_cons_of_mem c hd)]
    simp [Nat.ofDigitChars_cons]

theorem readFrom_fraction {ds : Text} (h : Digits ds) (mantissa scale : Nat) (hs : scale ≤ 28) :
    readFrom true true mantissa scale ds =
      if scale + ds.length ≤ 28 then some (Nat.ofDigitChars 10 ds mantissa, scale + ds.length)
      else none := by
  induction ds generalizing mantissa scale with
  | nil => simp [readFrom, hs]
  | cons c ds ih =>
    by_cases he : scale = 28
    · simp [readFrom, he]
    · rw [readFrom, if_neg he, if_pos (h c (by simp)), if_pos rfl,
        ih (fun d hd => h d (List.mem_cons_of_mem c hd)) _ _ (by omega), Nat.ofDigitChars_cons,
        List.length_cons, Nat.add_assoc, Nat.add_comm 1]

theorem readFrom_point {whole ds : Text} (hw : Digits whole) (hn : whole ≠ []) (hd : Digits ds) :
    readFrom false false 0 0 (whole ++ '.' :: ds) =
      if ds.length ≤ 28 then some (Nat.ofDigitChars 10 (whole ++ ds) 0, ds.length) else none := by
  have hp (mantissa : Nat) : readFrom false true mantissa 0 ('.' :: ds) =
      readFrom true true mantissa 0 ds := by
    rw [readFrom, if_neg (by decide), if_neg (by decide), if_pos ⟨rfl, rfl⟩]
  have he : (false || !whole.isEmpty) = true := by simpa using hn
  rw [readFrom_whole hw, he, hp, readFrom_fraction hd _ _ (by decide), Nat.zero_add,
    Nat.ofDigitChars_append]

def signOf (negative : Bool) : Text :=
  if negative then ['-'] else []

def signed (negative : Bool) (n : Nat) : Int :=
  if negative then -(n : Int) else n

theorem ofText?_signed (negative : Bool) {c : Char} {rest : Text} (hc : c.isDigit = true) :
    ofText? (signOf negative ++ c :: rest) =
      (readFrom false false 0 0 (c :: rest)).bind fun (mantissa, scale) =>
        ofParts? (signed negative mantissa) scale := by
  cases negative with
  | true => rfl
  | false =>
    have hm : c ≠ '-' := ne_of_isDigit hc rfl
    have hp : c ≠ '+' := ne_of_isDigit hc rfl
    simp [ofText?, signOf, signed, hm, hp]

theorem ofText?_point (negative : Bool) {whole ds : Text} (hw : Digits whole) (hn : whole ≠ [])
    (hd : Digits ds) :
    ofText? (signOf negative ++ whole ++ '.' :: ds) =
      if ds.length ≤ 28 then
        ofParts? (signed negative (Nat.ofDigitChars 10 (whole ++ ds) 0)) ds.length
      else none := by
  cases whole with
  | nil => exact absurd rfl hn
  | cons c more =>
    have hr := readFrom_point hw hn hd
    rw [List.cons_append] at hr
    rw [List.append_assoc, List.cons_append, ofText?_signed negative (hw c (by simp)), hr]
    split <;> rfl

theorem exists_sign {whole : Text} (h : IsWhole whole) :
    ∃ negative ds, whole = signOf negative ++ ds ∧ ds ≠ [] ∧ Digits ds := by
  obtain ⟨c, ds, rfl, hc | ⟨rfl, hn⟩, hd⟩ := h
  · exact ⟨false, c :: ds, rfl, by simp, List.forall_mem_cons.mpr ⟨hc, hd⟩⟩
  · exact ⟨true, ds, rfl, hn, hd⟩

theorem isWhole_signed (negative : Bool) {ds : Text} (hn : ds ≠ []) (hd : Digits ds) :
    IsWhole (signOf negative ++ ds) := by
  cases ds with
  | nil => exact absurd rfl hn
  | cons c more =>
    obtain ⟨hc, hm⟩ := List.forall_mem_cons.mp hd
    cases negative with
    | true => exact ⟨'-', c :: more, rfl, .inr ⟨rfl, hn⟩, hd⟩
    | false => exact ⟨c, more, rfl, .inl hc, hm⟩

theorem ofParts?_scale {mantissa : Int} {scale : Nat} {d : Decimal}
    (h : ofParts? mantissa scale = some d) : d.mantissa = mantissa ∧ d.scale = scale := by
  unfold ofParts? at h
  split at h
  · rw [← Option.some.inj h]
    exact ⟨rfl, rfl⟩
  · cases h

theorem scale_of_ofText? {whole ds : Text} (h : IsWhole whole) (hd : Digits ds) {d : Decimal}
    (ho : ofText? (whole ++ '.' :: ds) = some d) : d.scale = ds.length := by
  obtain ⟨negative, digits, rfl, hn, hw⟩ := exists_sign h
  rw [ofText?_point negative hw hn hd] at ho
  split at ho
  · exact (ofParts?_scale ho).2
  · cases ho

theorem scale_ne_zero {whole ds : Text} (h : IsWhole whole) (hn : ds ≠ []) (hd : Digits ds)
    {d : Decimal} (ho : ofText? (whole ++ '.' :: ds) = some d) : d.scale ≠ 0 := by
  rw [scale_of_ofText? h hd ho]
  exact fun he => hn (List.length_eq_zero_iff.mp he)

theorem ofParts?_self (d : Decimal) : ofParts? d.mantissa d.scale = some d := by
  rw [ofParts?, dif_pos ⟨d.scale_le, d.mantissa_lt⟩]

theorem signed_natAbs (n : Int) : signed (decide (n < 0)) n.natAbs = n := by
  by_cases h : n < 0
  · simp only [signed, h, decide_true, if_true]
    omega
  · simp only [signed, h, decide_false, Bool.false_eq_true, if_false]
    omega

theorem exists_render {d : Decimal} (h : d.scale ≠ 0) :
    ∃ whole ds, d.render = signOf (decide (d.mantissa < 0)) ++ whole ++ '.' :: ds ∧
      Digits whole ∧ whole ≠ [] ∧ Digits ds ∧ ds.length = d.scale ∧
      Nat.ofDigitChars 10 (whole ++ ds) 0 = d.mantissa.natAbs := by
  have hl := le_length_ofNatWide (d.scale + 1) d.mantissa.natAbs
  have hd := digits_ofNatWide (d.scale + 1) d.mantissa.natAbs
  have hv := ofDigitChars_ofNatWide (d.scale + 1) d.mantissa.natAbs
  generalize he : ofNatWide (d.scale + 1) d.mantissa.natAbs = digits at hl hd hv
  refine ⟨digits.take (digits.length - d.scale), digits.drop (digits.length - d.scale), ?_,
    fun c hc => hd c (List.mem_of_mem_take hc), ?_, fun c hc => hd c (List.mem_of_mem_drop hc),
    ?_, ?_⟩
  · simp [render, he, h, signOf]
  · intro hn
    have := congrArg List.length hn
    simp only [List.length_take, List.length_nil] at this
    omega
  · rw [List.length_drop]
    omega
  · rw [List.take_append_drop, hv]

theorem ofText?_render {d : Decimal} (h : d.scale ≠ 0) : ofText? d.render = some d := by
  obtain ⟨whole, ds, hr, hw, hn, hd, hl, hv⟩ := exists_render h
  rw [hr, ofText?_point _ hw hn hd, hl, if_pos d.scale_le, hv, signed_natAbs, ofParts?_self]

theorem spelled_render {d : Decimal} (h : d.scale ≠ 0) : Spelled .decimal d.render := by
  obtain ⟨whole, ds, hr, hw, hn, hd, hl, -⟩ := exists_render h
  rw [hr]
  refine .decimal (isWhole_signed _ hn hw) ?_ hd
  rintro rfl
  exact h hl.symm

end EntityQuery.Decimal
