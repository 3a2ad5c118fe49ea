import EntityQuery.Lexeme.Timestamp
import EntityQuery.Proofs.Lexeme.Separator
import EntityQuery.Proofs.Text.Numeral

/-! The forms of dates and date-times. Scanning finds exactly them, and before a separator it ends
where they end. -/
namespace EntityQuery.Timestamp
open Text Lexeme

def Fits (template text : Text) : Prop :=
  text.length = template.length ∧ fits template text = true

theorem fits_append {template a : Text} (h : Fits template a) (b : Text) :
    fits template (a ++ b) = true := by
  obtain ⟨hl, hf⟩ := h
  induction template generalizing a with
  | nil => rfl
  | cons p template ih =>
    cases a with
    | nil => simp [fits] at hf
    | cons c rest =>
      simp only [fits, Bool.and_eq_true] at hf
      rw [List.cons_append, fits, Bool.and_eq_true]
      exact ⟨hf.1, ih (Nat.succ.inj hl) hf.2⟩

theorem exists_fits {template text : Text} (h : fits template text = true) :
    ∃ a b, text = a ++ b ∧ Fits template a := by
  induction template generalizing text with
  | nil => exact ⟨[], text, rfl, rfl, rfl⟩
  | cons p template ih =>
    cases text with
    | nil => simp [fits] at h
    | cons c rest =>
      simp only [fits, Bool.and_eq_true] at h
      obtain ⟨a, b, rfl, hl, hf⟩ := ih h.2
      exact ⟨c :: a, b, rfl, by simp [hl], by rw [fits, h.1, hf]; rfl⟩

theorem fits_ends {p : Char} (hp : p = '0' ∨ p ∈ marks) (template : Text) {tail : Text}
    (ht : Ends tail) : fits (p :: template) tail = false := by
  cases tail with
  | nil => rfl
  | cons c rest =>
    have hc := ends_cons.mp ht
    rw [fits]
    split
    · rw [not_isDigit_of_separates hc, Bool.false_and]
    · have hn : c ≠ p := ne_of_separates hc (hp.resolve_left ‹_›)
      simp [hn]

def IsDate (text : Text) : Prop :=
  Fits "0000-00-00".toList text

def IsClock (text : Text) : Prop :=
  Fits "T00:00:00".toList text

def IsZone (text : Text) : Prop :=
  text = [] ∨ text = ['Z'] ∨
    ∃ sign clock, (sign = '+' ∨ sign = '-') ∧ text = sign :: clock ∧ Fits "00:00".toList clock

def IsMoment (text : Text) : Prop :=
  ∃ date clock fraction zone, text = date ++ clock ++ fraction ++ zone ∧ IsDate date ∧
    IsClock clock ∧ IsFraction fraction ∧ IsZone zone

theorem IsDate.length {text : Text} (h : IsDate text) : text.length = 10 := h.1

theorem IsClock.length {text : Text} (h : IsClock text) : text.length = 9 := h.1

theorem IsDate.drop {date : Text} (h : IsDate date) (rest : Text) :
    (date ++ rest).drop dateLength = rest :=
  List.drop_left' h.length

theorem IsClock.drop {clock : Text} (h : IsClock clock) (rest : Text) :
    (clock ++ rest).drop 9 = rest :=
  List.drop_left' h.length

theorem IsClock.drop_fraction {clock : Text} (h : IsClock clock) (fraction rest : Text) :
    (clock ++ (fraction ++ rest)).drop (9 + fraction.length) = rest := by
  rw [← List.drop_drop, h.drop, List.drop_left' rfl]

theorem IsDate.head {c : Char} {rest : Text} (h : IsDate (c :: rest)) : c.isDigit = true := by
  have hf : (c.isDigit && fits "000-00-00".toList rest) = true := h.2
  exact (Bool.and_eq_true_iff.mp hf).1

theorem zoneLength_append {zone tail : Text} (h : IsZone zone)
    (ht : ∀ c ∈ tail.head?, c ≠ 'Z' ∧ c ≠ '+' ∧ c ≠ '-') :
    zoneLength (zone ++ tail) = zone.length := by
  rcases h with rfl | rfl | ⟨sign, clock, hs, rfl, hc⟩
  · cases tail with
    | nil => rfl
    | cons c rest =>
      obtain ⟨hz, hp, hm⟩ := ht c (by simp)
      simp [zoneLength, hz, hp, hm]
  · rfl
  · have hz : sign ≠ 'Z' := by rcases hs with rfl | rfl <;> decide
    rw [List.cons_append, zoneLength, if_neg hz, if_pos ⟨hs, fits_append hc tail⟩,
      List.length_cons, hc.1]
    rfl

theorem exists_zone (text : Text) :
    ∃ zone tail, text = zone ++ tail ∧ IsZone zone ∧ zoneLength text = zone.length := by
  cases text with
  | nil => exact ⟨[], [], rfl, .inl rfl, rfl⟩
  | cons c rest =>
    by_cases hz : c = 'Z'
    · subst hz
      exact ⟨['Z'], rest, rfl, .inr (.inl rfl), rfl⟩
    · by_cases hs : (c = '+' ∨ c = '-') ∧ fits "00:00".toList rest
      · obtain ⟨clock, tail, rfl, hc⟩ := exists_fits hs.2
        refine ⟨c :: clock, tail, rfl, .inr (.inr ⟨c, clock, hs.1, rfl, hc⟩), ?_⟩
        rw [zoneLength, if_neg hz, if_pos hs, List.length_cons, hc.1]
        rfl
      · exact ⟨[], c :: rest, rfl, .inl rfl, by rw [zoneLength, if_neg hz, if_neg hs]; rfl⟩

theorem length?_date {date tail : Text} (h : IsDate date) (ht : Ends tail) :
    length? (date ++ tail) = some dateLength := by
  have hc : fits "T00:00:00".toList tail = false := fits_ends (.inr (by decide)) _ ht
  rw [length?, if_pos (fits_append h tail), h.drop]
  simp only [hc, Bool.false_eq_true, if_false]

theorem IsZone.head {zone : Text} (h : IsZone zone) :
    ∀ c ∈ zone.head?, c.isDigit = false ∧ c ≠ '.' := by
  rcases h with rfl | rfl | ⟨sign, clock, hs, rfl, hc⟩
  · simp
  · intro c hc
    obtain rfl : 'Z' = c := by simpa using hc
    decide
  · rcases hs with rfl | rfl <;> simp

theorem ends_head {tail : Text} (ht : Ends tail) : ∀ c ∈ tail.head?,
    (c.isDigit = false ∧ c ≠ '.') ∧ c ≠ 'Z' ∧ c ≠ '+' ∧ c ≠ '-' :=
  fun c hc => ⟨⟨not_isDigit_of_separates (ht c hc), ne_of_separates (ht c hc) (by decide)⟩,
    ne_of_separates (ht c hc) (by decide), ne_of_separates (ht c hc) (by decide),
    ne_of_separates (ht c hc) (by decide)⟩

theorem length?_moment {text tail : Text} (h : IsMoment text) (ht : Ends tail) :
    length? (text ++ tail) = some text.length := by
  obtain ⟨date, clock, fraction, zone, rfl, hd, hc, hf, hz⟩ := h
  have hend : ∀ c ∈ (zone ++ tail).head?, c.isDigit = false ∧ c ≠ '.' := by
    intro c hm
    rw [List.head?_append, Option.mem_def, Option.or_eq_some_iff] at hm
    rcases hm with hm | ⟨-, hm⟩
    · exact hz.head c hm
    · exact (ends_head ht c hm).1
  have hfr := fractionLength_append hf hend
  have hzo := zoneLength_append hz fun c hm => (ends_head ht c hm).2
  simp only [List.append_assoc]
  rw [length?, if_pos (fits_append hd _), hd.drop]
  simp only [fits_append hc, if_true, hc.drop, hfr, hc.drop_fraction, hzo, List.length_append,
    hd.length, hc.length, dateLength, Option.some.injEq]
  omega

theorem exists_timestamp {text : Text} {n : Nat} (h : length? text = some n) :
    ∃ a tail, text = a ++ tail ∧ a.length = n ∧
      (n = dateLength ∧ IsDate a ∨ n ≠ dateLength ∧ IsMoment a) := by
  unfold length? at h
  split at h
  · rename_i hfits
    obtain ⟨date, rest, rfl, hd⟩ := exists_fits hfits
    rw [IsDate.drop hd] at h
    dsimp only at h
    split at h
    · rename_i hclock
      obtain ⟨clock, rest, rfl, hc⟩ := exists_fits hclock
      obtain ⟨fraction, rest, rfl, hf, hfl⟩ := exists_fraction rest
      obtain ⟨zone, rest, rfl, hz, hzl⟩ := exists_zone rest
      rw [IsClock.drop hc, hfl, IsClock.drop_fraction hc, hzl, Option.some.injEq] at h
      have hl : dateLength = 10 := rfl
      refine ⟨date ++ clock ++ fraction ++ zone, rest, by simp, ?_, .inr ⟨by omega, ?_⟩⟩
      · rw [← h]
        simp only [List.length_append, hd.1, hc.1]
        rfl
      · exact ⟨date, clock, fraction, zone, rfl, hd, hc, hf, hz⟩
    · rw [Option.some.injEq] at h
      subst h
      exact ⟨date, rest, rfl, hd.1, .inl ⟨rfl, hd⟩⟩
  · simp at h

theorem IsMoment.length {text : Text} (h : IsMoment text) : dateLength < text.length := by
  obtain ⟨date, clock, fraction, zone, rfl, hd, hc, -, -⟩ := h
  simp only [List.length_append, hd.length, hc.length, dateLength]
  omega

theorem IsMoment.head {c : Char} {rest : Text} (h : IsMoment (c :: rest)) : c.isDigit = true := by
  obtain ⟨date, clock, fraction, zone, he, hd, -, -, -⟩ := h
  cases date with
  | nil => simp [IsDate, Fits] at hd
  | cons d more =>
    obtain ⟨rfl, -⟩ := List.cons.inj he
    exact hd.head

/-- A numeral without a hyphen inside it is no date, whatever it ends with. -/
theorem length?_none {c : Char} {more tail : Text} (hm : '-' ∉ more) (ht : Ends tail) :
    length? (c :: (more ++ tail)) = none := by
  have hz (template : Text) : fits ('0' :: template) tail = false :=
    fits_ends (.inl rfl) template ht
  have hh (template : Text) : fits ('-' :: template) tail = false :=
    fits_ends (.inr (by decide)) template ht
  have hf : fits "0000-00-00".toList (c :: (more ++ tail)) = false := by
    rcases more with _ | ⟨d, _ | ⟨e, _ | ⟨f, _ | ⟨g, more⟩⟩⟩⟩
    · simp [fits, hz]
    · simp [fits, hz]
    · simp [fits, hz]
    · simp [fits, hh]
    · have hg : g ≠ '-' := by
        rintro rfl
        simp at hm
      simp [fits, hg]
  rw [length?, hf]
  rfl

end EntityQuery.Timestamp
