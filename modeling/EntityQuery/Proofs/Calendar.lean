import EntityQuery.Calendar.DateTime
import EntityQuery.Proofs.Lexeme.Literal

/-! Dates and moments of the years that have four digits are read as they are written. -/
namespace EntityQuery.Calendar
open Text Lexeme Timestamp Unicode

section Parts
variable {least most n : Nat} {ds text rest : Text}

theorem digitsUpTo_append (hd : Digits ds) (hm : ds.length = most) (hl : least ≤ most) :
    digitsUpTo least most (ds ++ rest) = some (Nat.ofDigitChars 10 ds 0, rest) := by
  have ht : ((ds ++ rest).take most).takeWhile Char.isDigit = ds := by
    rw [List.take_left' hm]
    simpa [Digits] using hd
  rw [digitsUpTo, ht, if_neg (by omega), List.drop_left' rfl]

theorem digitsUpTo_lt (h : digitsUpTo least most text = some (n, rest)) : n < 10 ^ most := by
  unfold digitsUpTo at h
  dsimp only at h
  split at h
  · cases h
  · obtain ⟨rfl, -⟩ := Prod.mk.inj (Option.some.inj h)
    have hd : Digits ((text.take most).takeWhile Char.isDigit) :=
      fun c hc => List.mem_takeWhile_imp hc
    have hl : ((text.take most).takeWhile Char.isDigit).length ≤ most :=
      Nat.le_trans (List.takeWhile_prefix _).length_le (List.length_take_le most text)
    refine Nat.lt_of_lt_of_le (ofDigitChars_lt hd 0) ?_
    rw [Nat.zero_add, Nat.mul_one]
    exact Nat.pow_le_pow_right (by decide) hl

theorem digitsUpTo_wide (hw : 0 < most) (hl : least ≤ most) (h : n < 10 ^ most) (rest : Text) :
    digitsUpTo least most (ofNatWide most n ++ rest) = some (n, rest) := by
  rw [digitsUpTo_append (digits_ofNatWide most n) (length_ofNatWide hw h) hl,
    ofDigitChars_ofNatWide]

theorem twoDigits?_wide (h : n < 100) : twoDigits? (ofNatWide 2 n ++ rest) = some (n, rest) :=
  digitsUpTo_wide (by decide) (by decide) h rest

theorem trimStart_digits (hd : Digits ds) (hn : ds ≠ []) : trimStart (ds ++ rest) = ds ++ rest := by
  cases ds with
  | nil => exact absurd rfl hn
  | cons c more => exact trimStart_cons (not_isBlank_of_isDigit (hd c (by simp))) _

theorem ofNatWide_ne_nil (hw : 0 < most) : ofNatWide most n ≠ [] := by
  intro he
  have hl := le_length_ofNatWide most n
  rw [he] at hl
  exact absurd hl (Nat.not_le.mpr hw)

theorem part?_wide (h : n < 100) : part? (ofNatWide 2 n ++ rest) = some (n, rest) := by
  rw [part?, trimStart_digits (digits_ofNatWide 2 n) (ofNatWide_ne_nil (by decide)),
    digitsUpTo_wide (by decide) (by decide) h]

theorem year?_digit {c : Char} (hc : c.isDigit = true) :
    year? (c :: rest) =
      (digitsUpTo 1 4 (c :: rest)).map fun (year, rest) => ((year : Int), rest) := by
  have hm : c ≠ '-' := ne_of_isDigit hc rfl
  have hp : c ≠ '+' := ne_of_isDigit hc rfl
  simp [year?, trimStart_cons (not_isBlank_of_isDigit hc), hm, hp]

theorem year?_wide (h : n < 10000) : year? (ofNatWide 4 n ++ rest) = some ((n : Int), rest) := by
  have hd := digits_ofNatWide 4 n
  have hr := @digitsUpTo_wide 1 4 n (by decide) (by decide) h rest
  cases he : ofNatWide 4 n with
  | nil => exact absurd he (ofNatWide_ne_nil (by decide))
  | cons c more =>
    rw [he, List.cons_append] at hr
    rw [List.cons_append, year?_digit (hd c (by simp [he])), hr]
    rfl

theorem year?_bounds {c : Char} (hc : c.isDigit = true) {year : Int}
    (h : year? (c :: text) = some (year, rest)) : 0 ≤ year ∧ year ≤ 9999 := by
  rw [year?_digit hc, Option.map_eq_some_iff] at h
  obtain ⟨⟨n, after⟩, hn, he⟩ := h
  obtain ⟨rfl, -⟩ := Prod.mk.inj he
  have := digitsUpTo_lt hn
  omega

@[simp] theorem mark?_self (mark : Char) : mark? mark (mark :: rest) = some rest := by
  simp [mark?]

theorem looseMark?_self {mark : Char} (h : isBlank mark = false) :
    looseMark? mark (mark :: rest) = some rest := by
  rw [looseMark?, trimStart_cons h, mark?_self]

end Parts

theorem isDate_bounds {year : Int} {month day : Nat} (h : isDate year month day = true) :
    month < 100 ∧ day < 100 := by
  simp only [isDate, Bool.and_eq_true, decide_eq_true_eq] at h
  have hd : daysInMonth year month ≤ 31 := by
    unfold daysInMonth
    split
    · split <;> omega
    · omega
    · omega
    · omega
    · omega
    · omega
  omega

namespace Date

def InDigits (date : Date) : Prop :=
  0 ≤ date.year ∧ date.year ≤ 9999

variable {date : Date}

theorem render_eq (h : date.InDigits) (rest : Text) : date.render ++ rest =
    ofNatWide 4 date.year.natAbs ++
      '-' :: (ofNatWide 2 date.month ++ '-' :: (ofNatWide 2 date.day ++ rest)) := by
  obtain ⟨hl, hh⟩ := h
  simp [render, renderYear, Int.not_lt.mpr hl, hh]

theorem ofParts?_self (date : Date) (h : date.InDigits) :
    ofParts? (date.year.natAbs : Int) date.month date.day = some date := by
  rw [Int.natAbs_of_nonneg h.1, ofParts?, dif_pos date.valid]

theorem read?_render {mark : Char → Text → Option Text}
    (hm : ∀ rest, mark '-' ('-' :: rest) = some rest) (h : date.InDigits) (rest : Text) :
    read? mark (date.render ++ rest) = some (date, rest) := by
  obtain ⟨hmonth, hday⟩ := isDate_bounds date.valid
  have hy : date.year.natAbs < 10000 := by
    obtain ⟨hl, hh⟩ := h
    omega
  have hp := ofParts?_self date h
  rw [render_eq h]
  generalize date.year.natAbs = year at hy hp ⊢
  simp [read?, year?_wide hy, hm, part?_wide hmonth, part?_wide hday, hp]

theorem ofText?_render (h : date.InDigits) : ofText? date.render = some date := by
  have hr : read? mark? (date.render ++ []) = _ := read?_render (fun _ => mark?_self '-') h []
  rw [List.append_nil] at hr
  rw [ofText?, hr]

theorem inDigits_of_read? {mark : Char → Text → Option Text} {c : Char} {text rest : Text}
    (hc : c.isDigit = true) (h : read? mark (c :: text) = some (date, rest)) : date.InDigits := by
  simp only [read?, Option.bind_eq_bind, Option.bind_eq_some_iff] at h
  obtain ⟨⟨year, after⟩, hy, _, -, ⟨month, _⟩, -, _, -, ⟨day, _⟩, -, found, hp, he⟩ := h
  obtain ⟨rfl, -⟩ := Prod.mk.inj (Option.some.inj he)
  unfold ofParts? at hp
  split at hp
  · rw [← Option.some.inj hp]
    exact year?_bounds hc hy
  · cases hp

theorem inDigits_of_ofText? {c : Char} {text : Text} (hc : c.isDigit = true)
    (h : ofText? (c :: text) = some date) : date.InDigits := by
  unfold ofText? at h
  split at h
  · rename_i found hr
    rw [← Option.some.inj h]
    exact inDigits_of_read? hc hr
  · cases h

end Date

namespace Time
variable (time : Time) {rest : Text}

theorem fraction?_wide {k m : Nat} (hk : 0 < k) (hl : k ≤ 9) (hm : m < 10 ^ k)
    (hr : ∀ c ∈ rest.head?, c.isDigit = false) :
    fraction? ('.' :: (ofNatWide k m ++ rest)) = some (10 ^ (9 - k) * m, rest) := by
  have hd := digits_ofNatWide k m
  have hn := length_ofNatWide hk hm
  have ht : (ofNatWide k m ++ rest).takeWhile Char.isDigit = ofNatWide k m :=
    takeWhile_append_ends hd hr
  have he : (ofNatWide k m).isEmpty = false := by simpa using ofNatWide_ne_nil hk
  have hp : ((ofNatWide k m).take 9).rightpad 9 '0' =
      ofNatWide k m ++ List.replicate (9 - k) '0' := by
    rw [List.take_of_length_le (by omega), List.rightpad, hn]
  simp only [fraction?, ht, he, Bool.false_eq_true, if_false, hp, Nat.ofDigitChars_append,
    ofDigitChars_ofNatWide, Nat.ofDigitChars_replicate_zero, List.drop_left' rfl]

theorem fraction?_fraction (hr : ∀ c ∈ rest.head?, c.isDigit = false ∧ c ≠ '.') :
    fraction? (time.fraction ++ rest) = some (time.nano, rest) := by
  have hn : time.nano < 10 ^ 9 := time.valid.2.2.2
  have hd : ∀ c ∈ rest.head?, c.isDigit = false := fun c hc => (hr c hc).1
  unfold fraction
  by_cases h0 : time.nano = 0
  · rw [if_pos h0, List.nil_append, h0]
    unfold fraction?
    split
    · exact absurd rfl (hr '.' (by simp)).2
    · rfl
  · rw [if_neg h0]
    by_cases h6 : time.nano % 1000000 = 0
    · rw [if_pos h6, List.cons_append, fraction?_wide (by decide) (by decide) (by omega) hd]
      congr 2
      omega
    · rw [if_neg h6]
      by_cases h3 : time.nano % 1000 = 0
      · rw [if_pos h3, List.cons_append, fraction?_wide (by decide) (by decide) (by omega) hd]
        congr 2
        omega
      · rw [if_neg h3, List.cons_append, fraction?_wide (by decide) (by decide) hn hd]
        congr 2
        omega

theorem ofParts?_self :
    ofParts? time.hour time.minute time.second time.nano = some time := by
  rw [ofParts?, dif_pos time.valid]

theorem clock_eq (rest : Text) : time.clock ++ rest =
    ofNatWide 2 time.hour ++
      ':' :: (ofNatWide 2 time.minute ++ ':' :: (ofNatWide 2 time.second ++ rest)) := by
  simp [clock]

theorem read?_render {part : Text → Option (Nat × Text)} {mark : Char → Text → Option Text}
    (hp : ∀ n rest, n < 100 → part (ofNatWide 2 n ++ rest) = some (n, rest))
    (hm : ∀ rest, mark ':' (':' :: rest) = some rest)
    (hr : ∀ c ∈ rest.head?, c.isDigit = false ∧ c ≠ '.') :
    read? part mark (time.clock ++ (time.fraction ++ rest)) = some (time, rest) := by
  obtain ⟨hhour, hminute, hsecond, -⟩ := time.valid
  rw [clock_eq]
  simp [read?, hp time.hour _ (by omega), hp time.minute _ (by omega),
    hp time.second _ (by omega), hm, time.fraction?_fraction hr, time.ofParts?_self]

end Time

namespace DateTime

theorem renderOffset_head (offset : Offset) :
    ∀ c ∈ (renderOffset offset).head?, c.isDigit = false ∧ c ≠ '.' := by
  unfold renderOffset Offset.render
  intro c hc
  split at hc
  · obtain rfl : 'Z' = c := by simpa using hc
    decide
  · split at hc
    · obtain rfl : '-' = c := by simpa using hc
      decide
    · obtain rfl : '+' = c := by simpa using hc
      decide

theorem ofParts?_self (offset : Offset) :
    Offset.ofParts? (decide (offset.minutes < 0)) (offset.minutes.natAbs / 60)
      (offset.minutes.natAbs % 60) = some offset := by
  obtain ⟨minutes, hv⟩ := offset
  have hb : minutes.natAbs % 60 ≤ 59 ∧ minutes.natAbs / 60 ≤ 23 := by omega
  have hs := Nat.div_add_mod minutes.natAbs 60
  rw [Offset.ofParts?, dif_pos hb, Option.some.injEq, Offset.mk.injEq]
  simp only [hs, decide_eq_true_eq]
  split <;> omega

theorem read?_renderOffset (offset : Offset) :
    Offset.read? (renderOffset offset) = some (offset, []) := by
  have hv := offset.valid
  have hp := ofParts?_self offset
  have hh : offset.minutes.natAbs / 60 < 100 := by omega
  have hm : twoDigits? (ofNatWide 2 (offset.minutes.natAbs % 60) ++ []) = _ :=
    twoDigits?_wide (by omega)
  rw [List.append_nil] at hm
  unfold renderOffset
  by_cases h0 : offset.minutes = 0
  · rw [if_pos h0]
    obtain ⟨minutes, hv⟩ := offset
    cases h0
    rfl
  · rw [if_neg h0]
    by_cases hn : offset.minutes < 0
    · rw [decide_eq_true hn] at hp
      simp [Offset.render, hn, Offset.read?, twoDigits?_wide hh, hm, hp]
    · rw [decide_eq_false hn] at hp
      simp [Offset.render, hn, Offset.read?, twoDigits?_wide hh, hm, hp]

variable {moment : DateTime}

theorem fullDate?_render {date : Date} (h : date.InDigits) (rest : Text) :
    fullDate? (date.render ++ rest) = some (date, rest) := by
  obtain ⟨hmonth, hday⟩ := isDate_bounds date.valid
  have hy : date.year.natAbs < 10 ^ 4 := by
    obtain ⟨hl, hh⟩ := h
    omega
  have hp := date.ofParts?_self h
  rw [Date.render_eq h]
  generalize date.year.natAbs = year at hy hp ⊢
  have hd := @digitsUpTo_wide 4 4 year (by decide) (Nat.le_refl 4) hy
  simp [fullDate?, hd, twoDigits?_wide hmonth, twoDigits?_wide hday, hp]

theorem render_eq (moment : DateTime) : moment.render =
    moment.date.render ++ 'T' :: (moment.time.clock ++ (moment.time.fraction ++
      (moment.offset.map renderOffset).getD [])) := by
  simp [render]

theorem absolute?_render (h : moment.date.InDigits) :
    absolute? moment.render = if moment.offset = none then none else some moment := by
  have hm : ∀ rest, mark? ':' (':' :: rest) = some rest := fun _ => mark?_self ':'
  have hp : ∀ n rest, n < 100 → twoDigits? (ofNatWide 2 n ++ rest) = some (n, rest) :=
    fun _ _ => twoDigits?_wide
  obtain ⟨date, time, offset⟩ := moment
  rw [render_eq]
  cases offset with
  | none =>
    have ht : Time.read? twoDigits? mark? (time.clock ++ (time.fraction ++ [])) = _ :=
      time.read?_render hp hm (by simp)
    rw [List.append_nil] at ht
    simp [absolute?, fullDate?_render h, separator?, ht, Offset.read?]
  | some offset =>
    have ht := time.read?_render hp hm (renderOffset_head offset)
    simp [absolute?, fullDate?_render h, separator?, ht, read?_renderOffset]

theorem local?_render (h : moment.date.InDigits) (ho : moment.offset = none) :
    local? moment.render = some moment := by
  have hm (mark : Char) (hb : isBlank mark = false) (rest : Text) :
      looseMark? mark (mark :: rest) = some rest := looseMark?_self hb
  have ht : Time.read? part? looseMark? (moment.time.clock ++ (moment.time.fraction ++ [])) = _ :=
    moment.time.read?_render (fun _ _ => part?_wide) (hm ':' rfl) (by simp)
  have hd := Date.read?_render (hm '-' rfl) h
  obtain ⟨date, time, offset⟩ := moment
  subst ho
  rw [List.append_nil] at ht
  rw [render_eq]
  simp [local?, hd, hm 'T' rfl, ht, trimStart]

theorem ofText?_render (h : moment.date.InDigits) : ofText? moment.render = some moment := by
  rw [ofText?, absolute?_render h]
  by_cases ho : moment.offset = none
  · rw [if_pos ho, Option.none_or, local?_render h ho]
  · rw [if_neg ho, Option.some_or]

theorem inDigits_of_absolute? {text : Text} (h : absolute? text = some moment) :
    moment.date.InDigits := by
  simp only [absolute?, fullDate?, Option.bind_eq_bind, Option.bind_eq_some_iff] at h
  obtain ⟨⟨date, _⟩, ⟨⟨year, _⟩, hy, _, -, ⟨month, _⟩, -, _, -, ⟨day, _⟩, -, found, hp, hd⟩, _, -,
    ⟨time, _⟩, -, ⟨offset, after⟩, -, he⟩ := h
  obtain ⟨rfl, -⟩ := Prod.mk.inj (Option.some.inj hd)
  have hm : moment.date = found := by
    cases after with
    | nil => rw [← Option.some.inj he]
    | cons c rest => cases he
  unfold Date.ofParts? at hp
  split at hp
  · rw [hm, ← Option.some.inj hp]
    have := digitsUpTo_lt hy
    exact ⟨Int.natCast_nonneg year, by change (year : Int) ≤ 9999; omega⟩
  · cases hp

theorem inDigits_of_local? {c : Char} {text : Text} (hc : c.isDigit = true)
    (h : local? (c :: text) = some moment) : moment.date.InDigits := by
  simp only [local?, Option.bind_eq_bind, Option.bind_eq_some_iff] at h
  obtain ⟨⟨date, _⟩, hd, _, -, ⟨time, after⟩, -, he⟩ := h
  have hm : moment.date = date := by
    dsimp only at he
    split at he
    · rw [← Option.some.inj he]
    · cases he
  rw [hm]
  exact Date.inDigits_of_read? hc hd

theorem inDigits_of_ofText? {c : Char} {text : Text} (hc : c.isDigit = true)
    (h : ofText? (c :: text) = some moment) : moment.date.InDigits := by
  rw [ofText?, Option.or_eq_some_iff] at h
  rcases h with h | ⟨-, h⟩
  · exact inDigits_of_absolute? h
  · exact inDigits_of_local? hc h

end DateTime

section Spelled

theorem fits_digits {ds : Text} (h : Digits ds) : Fits (List.replicate ds.length '0') ds := by
  refine ⟨List.length_replicate.symm, ?_⟩
  induction ds with
  | nil => rfl
  | cons c rest ih =>
    obtain ⟨hc, hr⟩ := List.forall_mem_cons.mp h
    rw [List.length_cons, List.replicate_succ, fits, if_pos rfl, hc, ih hr]
    rfl

theorem fits_cons {p : Char} {template text : Text} (h : Fits template text) :
    Fits (p :: template) (p :: text) := by
  refine ⟨congrArg (· + 1) h.1, ?_⟩
  rw [fits, h.2, Bool.and_true]
  split
  · rename_i hp
    rw [hp]
    rfl
  · exact beq_self_eq_true p

theorem fits_concat {t u a b : Text} (ha : Fits t a) (hb : Fits u b) : Fits (t ++ u) (a ++ b) := by
  refine ⟨by rw [List.length_append, List.length_append, ha.1, hb.1], ?_⟩
  obtain ⟨hl, hf⟩ := ha
  induction t generalizing a with
  | nil =>
    obtain rfl := List.length_eq_zero_iff.mp hl
    exact hb.2
  | cons p t ih =>
    cases a with
    | nil => simp [fits] at hf
    | cons c a =>
      simp only [fits, Bool.and_eq_true] at hf
      rw [List.cons_append, List.cons_append, fits, hf.1, Bool.true_and]
      exact ih (Nat.succ.inj hl) hf.2

theorem fits_wide {width n : Nat} (hw : 0 < width) (h : n < 10 ^ width) :
    Fits (List.replicate width '0') (ofNatWide width n) := by
  have hf := fits_digits (digits_ofNatWide width n)
  rwa [length_ofNatWide hw h] at hf

theorem fits_pair {n : Nat} (h : n < 100) : Fits "00".toList (ofNatWide 2 n) :=
  fits_wide (by decide) h

theorem isDate_render {date : Date} (h : date.InDigits) : IsDate date.render := by
  obtain ⟨hmonth, hday⟩ := isDate_bounds date.valid
  have hy : date.year.natAbs < 10 ^ 4 := by
    obtain ⟨hl, hh⟩ := h
    omega
  have hf := fits_concat (fits_wide (by decide) hy) (fits_cons (p := '-')
    (fits_concat (fits_pair hmonth) (fits_cons (p := '-') (fits_pair hday))))
  have he := Date.render_eq h []
  simp only [List.append_nil] at he
  rw [he]
  exact hf

theorem isClock_render (time : Time) : IsClock ('T' :: time.clock) := by
  obtain ⟨hhour, hminute, hsecond, -⟩ := time.valid
  have hf := fits_cons (p := 'T') (fits_concat (fits_pair (n := time.hour) (by omega))
    (fits_cons (p := ':') (fits_concat (fits_pair (n := time.minute) (by omega))
      (fits_cons (p := ':') (fits_pair (n := time.second) (by omega))))))
  have he := time.clock_eq []
  simp only [List.append_nil] at he
  rw [he]
  exact hf

theorem isFraction_render (time : Time) : IsFraction time.fraction := by
  have hw (width n : Nat) (h : 0 < width) : IsFraction ('.' :: ofNatWide width n) :=
    .inr ⟨_, rfl, ofNatWide_ne_nil h, digits_ofNatWide width n⟩
  unfold Time.fraction
  split
  · exact .inl rfl
  · split
    · exact hw _ _ (by decide)
    · split
      · exact hw _ _ (by decide)
      · exact hw _ _ (by decide)

theorem isZone_render (offset : Option Offset) :
    IsZone ((offset.map DateTime.renderOffset).getD []) := by
  cases offset with
  | none => exact .inl rfl
  | some offset =>
    have hv := offset.valid
    change IsZone (DateTime.renderOffset offset)
    unfold DateTime.renderOffset
    split
    · exact .inr (.inl rfl)
    · refine .inr (.inr ⟨_, _, ?_, rfl, ?_⟩)
      · split <;> simp
      · exact fits_concat (fits_pair (by omega)) (fits_cons (p := ':') (fits_pair (by omega)))

theorem isMoment_render {moment : DateTime} (h : moment.date.InDigits) :
    IsMoment moment.render := by
  refine ⟨_, _, _, _, ?_, isDate_render h, isClock_render moment.time,
    isFraction_render moment.time, isZone_render moment.offset⟩
  rw [DateTime.render_eq]
  simp

end Spelled
end EntityQuery.Calendar
