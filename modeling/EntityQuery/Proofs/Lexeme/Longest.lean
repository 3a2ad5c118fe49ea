import Mathlib.Data.List.Forall2
import EntityQuery.Proofs.Lexeme.Literal

/-! Dates and date-times are scanned as far as they go. The form is told here part by part, without
regard to how it is scanned; what is scanned is the longest start of a text that has the form. So a
number that is read is a date or a date-time wherever one starts, and reaches to its end. -/
namespace EntityQuery
open Text

namespace Timestamp

/-- A text of the shape of a template, in which a `0` stands for any digit. -/
def Shaped (template text : Text) : Prop :=
  List.Forall₂ (fun p c => if p = '0' then c.isDigit = true else c = p) template text

theorem fits_iff_shaped {template text : Text} : Fits template text ↔ Shaped template text := by
  induction template generalizing text with
  | nil =>
    constructor
    · rintro ⟨hl, -⟩
      rw [List.length_eq_zero_iff.mp hl]
      exact .nil
    · rintro ⟨⟩
      exact ⟨rfl, rfl⟩
  | cons p template ih =>
    have hc (c : Char) : (if p = '0' then c.isDigit else c == p) = true ↔
        if p = '0' then c.isDigit = true else c = p := by
      split <;> simp
    constructor
    · rintro ⟨hl, hf⟩
      cases text with
      | nil => cases hf
      | cons c rest =>
        rw [fits, Bool.and_eq_true] at hf
        exact .cons ((hc c).mp hf.1) (ih.mp ⟨Nat.succ.inj hl, hf.2⟩)
    · rintro (- | ⟨h, hs⟩)
      obtain ⟨hl, hf⟩ := ih.mpr hs
      exact ⟨congrArg (· + 1) hl, by rw [fits, (hc _).mpr h, hf]; rfl⟩

inductive Zone : Text → Prop where
  | none : Zone []
  | utc : Zone ['Z']
  | offset {sign : Char} {clock : Text} (hs : sign = '+' ∨ sign = '-')
      (h : Shaped "00:00".toList clock) : Zone (sign :: clock)

theorem isZone_iff {text : Text} : IsZone text ↔ Zone text := by
  constructor
  · rintro (rfl | rfl | ⟨sign, clock, hs, rfl, hc⟩)
    · exact .none
    · exact .utc
    · exact .offset hs (fits_iff_shaped.mp hc)
  · rintro (_ | _ | ⟨hs, hc⟩)
    · exact .inl rfl
    · exact .inr (.inl rfl)
    · exact .inr (.inr ⟨_, _, hs, rfl, fits_iff_shaped.mpr hc⟩)

inductive Form : Bool → Text → Prop where
  | date {date : Text} (h : Shaped "0000-00-00".toList date) : Form false date
  | dateTime {date clock fraction zone : Text} (hd : Shaped "0000-00-00".toList date)
      (hc : Shaped "T00:00:00".toList clock) (hf : IsFraction fraction) (hz : Zone zone) :
      Form true (date ++ clock ++ fraction ++ zone)

theorem form_date {text : Text} : Form false text ↔ IsDate text := by
  constructor
  · rintro ⟨h⟩
    exact fits_iff_shaped.mpr h
  · intro h
    exact .date (fits_iff_shaped.mp h)

theorem form_dateTime {text : Text} : Form true text ↔ IsMoment text := by
  constructor
  · rintro ⟨⟩
    exact ⟨_, _, _, _, rfl, fits_iff_shaped.mpr ‹_›, fits_iff_shaped.mpr ‹_›, ‹_›,
      isZone_iff.mpr ‹_›⟩
  · rintro ⟨date, clock, fraction, zone, rfl, hd, hc, hf, hz⟩
    exact .dateTime (fits_iff_shaped.mp hd) (fits_iff_shaped.mp hc) hf (isZone_iff.mp hz)

/-- The longest start of a text that has the form of a date or a date-time, and which of them. -/
structure Longest (timed : Bool) (start text : Text) : Prop where
  form : Form timed start
  starts : start <+: text
  longest (timed' : Bool) (other : Text) : Form timed' other → other <+: text →
    other.length ≤ start.length

section Scanning
variable {a : Text} (tail : Text)

theorem le_digitRun (h : Digits a) : a.length ≤ digitRun (a ++ tail) := by
  induction a with
  | nil => exact Nat.zero_le _
  | cons c rest ih =>
    obtain ⟨hc, hr⟩ := List.forall_mem_cons.mp h
    rw [List.cons_append, digitRun, if_pos hc, List.length_cons]
    exact Nat.succ_le_succ (ih hr)

theorem le_fractionLength (h : IsFraction a) : a.length ≤ fractionLength (a ++ tail) := by
  rcases h with rfl | ⟨ds, rfl, hn, hd⟩
  · exact Nat.zero_le _
  · have hl := le_digitRun tail hd
    have hp := List.length_pos_iff.mpr hn
    rw [List.cons_append, fractionLength, if_neg (by omega), List.length_cons]
    omega

theorem le_zoneLength (h : IsZone a) : a.length ≤ zoneLength (a ++ tail) := by
  rcases h with rfl | rfl | ⟨sign, clock, hs, rfl, hc⟩
  · exact Nat.zero_le _
  · exact Nat.le_refl 1
  · have hz : sign ≠ 'Z' := by rcases hs with rfl | rfl <;> decide
    rw [List.cons_append, zoneLength, if_neg hz, if_pos ⟨hs, fits_append hc tail⟩,
      List.length_cons, hc.1]
    rfl

theorem le_length?_date (h : IsDate a) : ∃ n, length? (a ++ tail) = some n ∧ a.length ≤ n := by
  have hl : a.length = dateLength := h.length
  rw [length?, if_pos (fits_append h tail), hl]
  dsimp only
  split
  · exact ⟨_, rfl, by omega⟩
  · exact ⟨_, rfl, Nat.le_refl _⟩

/-- The scan reaches to the end of a date-time, or beyond it where digits or a time zone go on. -/
theorem le_length?_moment (h : IsMoment a) : ∃ n, length? (a ++ tail) = some n ∧ a.length ≤ n := by
  obtain ⟨date, clock, fraction, zone, rfl, hd, hc, hf, hz⟩ := h
  simp only [List.append_assoc]
  rw [length?, if_pos (fits_append hd _), hd.drop]
  simp only [fits_append hc, if_true, hc.drop]
  refine ⟨_, rfl, ?_⟩
  have hfl := le_fractionLength (zone ++ tail) hf
  have hl : dateLength = 10 := rfl
  simp only [List.length_append, hd.length, hc.length]
  by_cases hn : zone = []
  · subst hn
    rw [List.length_nil]
    omega
  · -- A zone does not start like the rest of a fraction, so the fraction ends before it.
    have hend : ∀ c ∈ (zone ++ tail).head?, c.isDigit = false ∧ c ≠ '.' := by
      intro c hm
      rw [List.head?_append_of_ne_nil _ hn] at hm
      exact hz.head c hm
    have hzl := le_zoneLength tail hz
    rw [fractionLength_append hf hend, hc.drop_fraction]
    omega

end Scanning

theorem le_length? {timed : Bool} {a : Text} (h : Form timed a) (tail : Text) :
    ∃ n, length? (a ++ tail) = some n ∧ a.length ≤ n := by
  cases timed with
  | false => exact le_length?_date tail (form_date.mp h)
  | true => exact le_length?_moment tail (form_dateTime.mp h)

theorem longest_of_length? {text : Text} {n : Nat} (h : length? text = some n) :
    ∃ timed start, Longest timed start text ∧ start.length = n := by
  obtain ⟨a, tail, rfl, hl, hf⟩ := exists_timestamp h
  have hlong (timed : Bool) (other : Text) (ho : Form timed other) (hp : other <+: a ++ tail) :
      other.length ≤ a.length := by
    obtain ⟨more, he⟩ := hp
    obtain ⟨m, hm, hle⟩ := le_length? ho more
    rw [he, h] at hm
    obtain rfl := Option.some.inj hm
    omega
  rcases hf with ⟨-, hd⟩ | ⟨-, hd⟩
  · exact ⟨false, a, ⟨form_date.mpr hd, List.prefix_append a tail, hlong⟩, hl⟩
  · exact ⟨true, a, ⟨form_dateTime.mpr hd, List.prefix_append a tail, hlong⟩, hl⟩

theorem length?_eq_none_iff {text : Text} :
    length? text = none ↔ ∀ start, start <+: text → ¬Form false start := by
  constructor
  · rintro h start ⟨tail, rfl⟩ hf
    obtain ⟨n, hn, -⟩ := le_length? hf tail
    rw [h] at hn
    cases hn
  · intro h
    cases hl : length? text with
    | none => rfl
    | some n =>
      unfold length? at hl
      split at hl
      · obtain ⟨date, rest, rfl, hd⟩ := exists_fits ‹_›
        exact absurd (form_date.mpr hd) (h date (List.prefix_append date rest))
      · cases hl

theorem Longest.unique {timed timed' : Bool} {a b text : Text} (ha : Longest timed a text)
    (hb : Longest timed' b text) : a = b := by
  have hab := hb.longest timed a ha.form ha.starts
  have hba := ha.longest timed' b hb.form hb.starts
  exact (List.prefix_of_prefix_length_le ha.starts hb.starts hab).eq_of_length (by omega)

theorem length?_eq_some_iff {text : Text} {n : Nat} :
    length? text = some n ↔ ∃ timed start, Longest timed start text ∧ start.length = n := by
  constructor
  · exact longest_of_length?
  · rintro ⟨timed, start, hs, rfl⟩
    obtain ⟨tail, rfl⟩ := hs.starts
    obtain ⟨n, hn, -⟩ := le_length? hs.form tail
    obtain ⟨timed', other, ho, rfl⟩ := longest_of_length? hn
    rw [hn, hs.unique ho]

example : length? "2024-01-02T03:04:05.5+1:00".toList = some 21 := by decide +kernel

theorem Form.le_length {timed : Bool} {a : Text} (h : Form timed a) : dateLength ≤ a.length := by
  cases timed with
  | false => exact Nat.le_of_eq (form_date.mp h).length.symm
  | true => exact Nat.le_of_lt (form_dateTime.mp h).length

theorem Form.timed_iff {timed : Bool} {a : Text} (h : Form timed a) :
    timed = true ↔ a.length ≠ dateLength := by
  cases timed with
  | false =>
    have hl : a.length = dateLength := (form_date.mp h).length
    simp [hl]
  | true =>
    have hl := (form_dateTime.mp h).length
    simp only [true_iff]
    omega

end Timestamp

namespace Lexeme
open Timestamp Unicode
variable {c : Char} {rest : Text}

theorem next_longest (h : StartsNumber c rest) {timed : Bool} {start : Text}
    (hs : Longest timed start (c :: rest)) : next c rest =
      (literal (if timed = true then .dateTime else .date) start, start.length - 1) := by
  have hl : Timestamp.length? (c :: rest) = some start.length :=
    length?_eq_some_iff.mpr ⟨timed, start, hs, rfl⟩
  have hk : (if start.length = dateLength then LiteralKind.date else .dateTime) =
      if timed = true then .dateTime else .date := by
    by_cases ht : timed = true
    · rw [if_pos ht, if_neg (hs.form.timed_iff.mp ht)]
    · rw [if_neg ht, if_pos (not_not.mp fun hn => ht (hs.form.timed_iff.mpr hn))]
  have hc : c :: rest.take (start.length - 1) = start := by
    obtain ⟨tail, ht⟩ := hs.starts
    cases start with
    | nil => exact absurd hs.form.le_length (by decide)
    | cons d more =>
      rw [List.cons_append] at ht
      obtain ⟨rfl, rfl⟩ := List.cons.inj ht
      rw [List.length_cons, Nat.add_sub_cancel, List.take_left' rfl]
  rw [(next_number h).2, number, hl]
  simp only [literalOf, hk, hc]

theorem next_undated (h : StartsNumber c rest)
    (hn : ∀ start, start <+: c :: rest → ¬Form false start) :
    ∃ kind n, (kind = .integer ∨ kind = .decimal) ∧
      next c rest = (literal kind (c :: rest.take n), n) := by
  rw [(next_number h).2, number, length?_eq_none_iff.mpr hn]
  refine ⟨_, _, ?_, rfl⟩
  split
  · exact .inl rfl
  · exact .inr rfl

theorem StartsNumber.of_take {n : Nat} (h : StartsNumber c (rest.take n)) :
    StartsNumber c rest := by
  refine h.imp_right ?_
  rintro ⟨hc, d, more, he, hd⟩
  refine ⟨hc, ?_⟩
  cases rest with
  | nil => simp at he
  | cons e other =>
    cases n with
    | zero => cases he
    | succ n =>
      obtain ⟨rfl, -⟩ := List.cons.inj he
      exact ⟨e, other, rfl, hd⟩

theorem IsWhole.startsNumber {more : Text} (h : IsWhole (c :: more)) (tail : Text) :
    StartsNumber c (more ++ tail) := by
  obtain ⟨d, ds, he, hc, hd⟩ := h
  obtain ⟨rfl, rfl⟩ := List.cons.inj he
  refine hc.imp_right ?_
  rintro ⟨hyphen, hn⟩
  cases more with
  | nil => exact absurd rfl hn
  | cons d more => exact ⟨hyphen, d, more ++ tail, rfl, hd d (by simp)⟩

def numberKinds : List LiteralKind :=
  [.integer, .decimal, .date, .dateTime]

theorem Spelled.startsNumber {kind : LiteralKind} {more : Text} (h : Spelled kind (c :: more))
    (hk : kind ∈ numberKinds) : StartsNumber c more := by
  generalize ht : c :: more = text at h
  cases h with
  | word hc hm hw =>
    rcases (ofWord_literal hw).2 with rfl | rfl <;> exact absurd hk (by decide)
  | integer h =>
    subst ht
    simpa using h.startsNumber []
  | @decimal whole ds h hn hd =>
    cases whole with
    | nil =>
      obtain ⟨d, es, he, -⟩ := h
      cases he
    | cons d whole =>
      rw [List.cons_append] at ht
      obtain ⟨rfl, rfl⟩ := List.cons.inj ht
      exact h.startsNumber _
  | date h =>
    subst ht
    exact .inl h.head
  | dateTime h =>
    subst ht
    exact .inl h.head
  | string => exact absurd hk (by decide)
  | hostExpression => exact absurd hk (by decide)

theorem startsNumber_of_next {kind : LiteralKind} {text : Text}
    (h : (next c rest).1 = literal kind text) (hk : kind ∈ numberKinds) : StartsNumber c rest := by
  obtain ⟨hs, rfl⟩ := next_spelled h
  exact StartsNumber.of_take (hs.startsNumber hk)

end Lexeme

namespace Token
open Lexeme Timestamp Unicode

/-- A token that is a date or a date-time is the longest that starts where it stands, and where an
integer or a decimal stands, none starts. -/
theorem longest_of_mem {source text : Text} {kind : LiteralKind} {token : Token}
    (h : token ∈ ofText source) (ht : token.lexeme = .literal kind text)
    (hk : kind ∈ numberKinds) : ∃ before after : Text, source = before ++ after ∧
      token.span.start = before.byteLength ∧
      ((kind = .date ∧ Longest false text after) ∨ (kind = .dateTime ∧ Longest true text after) ∨
        (kind = .integer ∨ kind = .decimal) ∧ ∀ start, start <+: after → ¬Form false start) := by
  obtain ⟨before, c, rest, rfl, hs, -, hn⟩ := exists_next h
  rw [ht] at hn
  rw [Nat.zero_add] at hs
  have hc := startsNumber_of_next hn hk
  refine ⟨before, c :: rest, rfl, hs, ?_⟩
  cases hl : Timestamp.length? (c :: rest) with
  | none =>
    have hnone := length?_eq_none_iff.mp hl
    obtain ⟨found, n, hf, he⟩ := next_undated hc hnone
    rw [he] at hn
    obtain ⟨rfl, -⟩ := Lexeme.literal.inj hn
    exact .inr (.inr ⟨hf, hnone⟩)
  | some n =>
    obtain ⟨timed, start, hlong, -⟩ := longest_of_length? hl
    rw [next_longest hc hlong] at hn
    obtain ⟨rfl, rfl⟩ := Lexeme.literal.inj hn
    cases timed with
    | false => exact .inl ⟨rfl, hlong⟩
    | true => exact .inr (.inl ⟨rfl, hlong⟩)

end Token
end EntityQuery
