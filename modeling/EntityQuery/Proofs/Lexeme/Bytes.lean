import EntityQuery.Proofs.Lexeme.Longest

/-! Scanning a date or a date-time by positions. The scan looks at single positions, beyond the end
also, and takes the rest of a text from a position on, which must not be beyond the end. It never
is: so the scan of a text and that of its bytes are safe, and they find the same. -/
namespace EntityQuery
open Text

namespace Text

/-- Bytes as a text, each as the character of its code. -/
def byteText (bytes : List UInt8) : Text :=
  bytes.map Char.ofUInt8

def encoded (text : Text) : List UInt8 :=
  text.flatMap String.utf8EncodeChar

def Ascii (text : Text) : Prop :=
  ∀ c ∈ text, c.toNat < 128

theorem Ascii.append {a b : Text} (ha : Ascii a) (hb : Ascii b) : Ascii (a ++ b) :=
  List.forall_mem_append.mpr ⟨ha, hb⟩

theorem ascii_digits {ds : Text} (h : Digits ds) : Ascii ds := by
  intro c hc
  have hd := (Unicode.isDigit_bounds (h c hc)).2
  omega

theorem ascii_fraction {fraction : Text} (h : IsFraction fraction) : Ascii fraction := by
  rcases h with rfl | ⟨ds, rfl, -, hd⟩
  · simp [Ascii]
  · exact List.forall_mem_cons.mpr ⟨by decide, ascii_digits hd⟩

theorem Ascii.byteLength {text : Text} (h : Ascii text) : text.byteLength = text.length := by
  induction text with
  | nil => rfl
  | cons c rest ih =>
    obtain ⟨hc, hr⟩ := List.forall_mem_cons.mp h
    have h1 : c.utf8Size = 1 := by
      rw [Char.utf8Size_eq_one_iff, UInt32.le_iff_toNat_le]
      exact Nat.le_of_lt_succ hc
    rw [Text.byteLength, h1, ih hr, List.length_cons, Nat.add_comm]

theorem toNat_ofUInt8 (b : UInt8) : (Char.ofUInt8 b).toNat = b.toNat :=
  UInt8.toNat_toUInt32 b

theorem byteText_ascii {c : Char} (h : c.toNat < 128) :
    byteText (String.utf8EncodeChar c) = [c] := by
  have he : String.utf8EncodeChar c = [UInt8.ofNat c.toNat] :=
    if_pos (Nat.le_of_lt_succ h)
  have hc : Char.ofUInt8 (UInt8.ofNat c.toNat) = c := by
    apply Char.toNat_inj.mp
    rw [toNat_ofUInt8, UInt8.toNat_ofNat']
    omega
  rw [he, byteText, List.map_singleton, hc]

theorem byteText_other {c : Char} (h : 128 ≤ c.toNat) :
    ∃ d more, byteText (String.utf8EncodeChar c) = d :: more ∧ 128 ≤ d.toNat := by
  have hfirst (n : Nat) (h : 128 ≤ n % 256) (more : List UInt8) :
      ∃ d rest, byteText (UInt8.ofNat n :: more) = d :: rest ∧ 128 ≤ d.toNat := by
    refine ⟨_, _, rfl, ?_⟩
    rw [toNat_ofUInt8, UInt8.toNat_ofNat']
    exact h
  have hn : ¬c.val.toNat ≤ 127 := Nat.not_le.mpr h
  unfold String.utf8EncodeChar
  rw [if_neg hn]
  split
  · exact hfirst _ (by omega) _
  · split
    · exact hfirst _ (by omega) _
    · exact hfirst _ (by omega) _

theorem byteText_cons (c : Char) (rest : Text) : byteText (encoded (c :: rest)) =
    byteText (String.utf8EncodeChar c) ++ byteText (encoded rest) := by
  rw [encoded, List.flatMap_cons, byteText, List.map_append]
  rfl

/-- The bytes of a text start like the text, as far as that is about single bytes. -/
theorem prefix_byteText_iff {start text : Text} (h : Ascii start) :
    start <+: byteText (encoded text) ↔ start <+: text := by
  induction start generalizing text with
  | nil => simp
  | cons d start ih =>
    obtain ⟨hd, hs⟩ := List.forall_mem_cons.mp h
    cases text with
    | nil => rfl
    | cons c rest =>
      rw [byteText_cons]
      by_cases hc : c.toNat < 128
      · rw [byteText_ascii hc, List.singleton_append, List.cons_prefix_cons,
          List.cons_prefix_cons, ih hs]
      · obtain ⟨e, more, he, hl⟩ := byteText_other (Nat.le_of_not_lt hc)
        rw [he, List.cons_append, List.cons_prefix_cons, List.cons_prefix_cons]
        constructor
        · rintro ⟨rfl, -⟩
          omega
        · rintro ⟨rfl, -⟩
          omega

end Text

namespace Timestamp

section Positions
variable (text : Text) (n : Nat)

def from? : Option Text :=
  if n ≤ text.length then some (text.drop n) else none

def digitsEnd (text : Text) (n : Nat) : Nat :=
  if h : n < text.length then if text[n].isDigit then digitsEnd text (n + 1) else n else n
termination_by text.length - n

def fractionEnd : Nat :=
  if text[n]? = some '.' ∧ text[n + 1]?.any Char.isDigit = true then digitsEnd text (n + 1) else n

/-- The position after a time zone at `n`, or `n`. -/
def zoneEnd? : Option Nat :=
  match text[n]? with
  | none => some n
  | some c =>
    if c = 'Z' then some (n + 1)
    else if c = '+' ∨ c = '-' then
      (from? text (n + 1)).map fun rest => if fits "00:00".toList rest then n + 6 else n
    else some n

/-- The length of the date or the date-time at the start, if there is one; nothing at all if the
text would be taken from beyond its end. -/
def scan? : Option (Option Nat) :=
  if fits "0000-00-00".toList text then
    if text[10]? = some 'T' then
      (from? text 11).bind fun rest =>
        if fits "00:00:00".toList rest then (zoneEnd? text (fractionEnd text 19)).map some
        else some (some 10)
    else some (some 10)
  else some none

theorem digitsEnd_eq : digitsEnd text n = n + digitRun (text.drop n) := by
  induction n using digitsEnd.induct text with
  | case1 n h hd ih =>
    rw [digitsEnd, dif_pos h, if_pos hd, ih, List.drop_eq_getElem_cons h, digitRun, if_pos hd]
    omega
  | case2 n h hd =>
    rw [digitsEnd, dif_pos h, if_neg hd, List.drop_eq_getElem_cons h, digitRun, if_neg hd]
    rfl
  | case3 n h =>
    rw [digitsEnd, dif_neg h, List.drop_eq_nil_of_le (by omega)]
    rfl

theorem drop_cases : (text.drop n = [] ∧ text[n]? = none) ∨
    ∃ c, text.drop n = c :: text.drop (n + 1) ∧ text[n]? = some c ∧
      from? text (n + 1) = some (text.drop (n + 1)) := by
  by_cases h : n < text.length
  · exact .inr ⟨text[n], List.drop_eq_getElem_cons h, List.getElem?_eq_getElem h, if_pos h⟩
  · have hn : text.length ≤ n := by omega
    exact .inl ⟨List.drop_eq_nil_of_le hn, List.getElem?_eq_none hn⟩

theorem digitRun_eq_zero (rest : Text) :
    digitRun rest = 0 ↔ ¬rest.head?.any Char.isDigit = true := by
  cases rest with
  | nil => simp [digitRun]
  | cons c more => simp [digitRun]

theorem fractionEnd_eq : fractionEnd text n = n + fractionLength (text.drop n) := by
  unfold fractionEnd
  obtain ⟨hd, hn⟩ | ⟨c, hd, hn, -⟩ := drop_cases text n
  · rw [hd, hn]
    rfl
  · rw [hd, hn, digitsEnd_eq, ← List.head?_drop]
    by_cases hc : c = '.'
    · subst hc
      rw [fractionLength]
      by_cases hz : digitRun (text.drop (n + 1)) = 0
      · rw [if_pos hz, if_neg fun h => (digitRun_eq_zero _).mp hz h.2]
        rfl
      · rw [if_neg hz, if_pos ⟨rfl, not_not.mp fun h => hz ((digitRun_eq_zero _).mpr h)⟩]
        omega
    · have hf : fractionLength (c :: text.drop (n + 1)) = 0 := by
        simp [fractionLength, hc]
      rw [hf, if_neg fun h => hc (Option.some.inj h.1)]
      rfl

theorem zoneEnd?_eq : zoneEnd? text n = some (n + zoneLength (text.drop n)) := by
  unfold zoneEnd?
  obtain ⟨hd, hn⟩ | ⟨c, hd, hn, hf⟩ := drop_cases text n
  · rw [hd, hn]
    rfl
  · rw [hd, hn, hf, zoneLength]
    dsimp only
    by_cases hz : c = 'Z'
    · rw [if_pos hz, if_pos hz]
    · rw [if_neg hz, if_neg hz]
      by_cases hs : c = '+' ∨ c = '-'
      · by_cases hc : fits "00:00".toList (text.drop (n + 1)) = true
        · rw [if_pos hs, if_pos ⟨hs, hc⟩, Option.map_some, if_pos hc]
        · rw [if_pos hs, if_neg fun h => hc h.2, Option.map_some, if_neg hc]
          rfl
      · rw [if_neg hs, if_neg fun h => hs h.1]
        rfl

theorem fits_clock : fits "T00:00:00".toList (text.drop dateLength) = true ↔
    text[10]? = some 'T' ∧ fits "00:00:00".toList (text.drop 11) = true := by
  rw [dateLength]
  obtain ⟨hd, hn⟩ | ⟨c, hd, hn, -⟩ := drop_cases text 10
  · rw [hd, hn]
    simp [fits]
  · have hc : fits "T00:00:00".toList (c :: text.drop 11) =
        (c == 'T' && fits "00:00:00".toList (text.drop 11)) := rfl
    rw [hd, hn, hc, Bool.and_eq_true, beq_iff_eq, Option.some.injEq]

/-- The scan by positions is never led beyond the end, and finds what is there. -/
theorem scan?_eq : scan? text = some (length? text) := by
  unfold scan? length?
  split
  · dsimp only
    by_cases ht : text[10]? = some 'T'
    · have hf : from? text 11 = some (text.drop 11) := by
        obtain ⟨-, hn⟩ | ⟨c, -, -, hf⟩ := drop_cases text 10
        · rw [hn] at ht
          cases ht
        · exact hf
      have hdrop (k : Nat) : (text.drop dateLength).drop (9 + k) = text.drop (19 + k) := by
        rw [List.drop_drop, ← Nat.add_assoc, dateLength]
      have h19 : (text.drop dateLength).drop 9 = text.drop 19 := hdrop 0
      rw [if_pos ht, hf, Option.bind_some]
      by_cases hc : fits "00:00:00".toList (text.drop 11) = true
      · rw [if_pos hc, if_pos ((fits_clock text).mpr ⟨ht, hc⟩), zoneEnd?_eq, fractionEnd_eq, h19,
          hdrop]
        rfl
      · rw [if_neg hc, if_neg fun h => hc ((fits_clock text).mp h).2]
        rfl
    · rw [if_neg ht, if_neg fun h => ht ((fits_clock text).mp h).1]
      rfl
  · rfl

end Positions

theorem ascii_shaped {template text : Text} (h : Shaped template text)
    (ht : template.all (·.toNat < 128) = true) : Ascii text := by
  induction h with
  | nil => simp [Ascii]
  | @cons p c template rest hc hr ih =>
    rw [List.all_cons, Bool.and_eq_true, decide_eq_true_eq] at ht
    obtain ⟨hp, hm⟩ := ht
    refine List.forall_mem_cons.mpr ⟨?_, ih hm⟩
    split at hc
    · have hd := (Unicode.isDigit_bounds hc).2
      omega
    · rw [hc]
      exact hp

theorem Zone.ascii {zone : Text} (h : Zone zone) : Ascii zone := by
  cases h with
  | none => simp [Ascii]
  | utc => simp [Ascii]
  | offset hs hc =>
    refine List.forall_mem_cons.mpr ⟨?_, ascii_shaped hc rfl⟩
    rcases hs with rfl | rfl <;> decide

theorem Form.ascii {timed : Bool} {text : Text} (h : Form timed text) : Ascii text := by
  cases h with
  | date h => exact ascii_shaped h rfl
  | dateTime hd hc hf hz =>
    exact (((ascii_shaped hd rfl).append (ascii_shaped hc rfl)).append
      (ascii_fraction hf)).append hz.ascii

theorem longest_byteText_iff {timed : Bool} {start text : Text} :
    Longest timed start (byteText (encoded text)) ↔ Longest timed start text := by
  constructor
  · rintro ⟨hf, hs, hl⟩
    refine ⟨hf, (prefix_byteText_iff hf.ascii).mp hs, fun timed' other ho hp => ?_⟩
    exact hl timed' other ho ((prefix_byteText_iff ho.ascii).mpr hp)
  · rintro ⟨hf, hs, hl⟩
    refine ⟨hf, (prefix_byteText_iff hf.ascii).mpr hs, fun timed' other ho hp => ?_⟩
    exact hl timed' other ho ((prefix_byteText_iff ho.ascii).mp hp)

theorem length?_byteText (text : Text) : length? (byteText (encoded text)) = length? text := by
  apply Option.ext
  intro n
  rw [length?_eq_some_iff, length?_eq_some_iff]
  simp only [longest_byteText_iff]

theorem byteLength_take {text : Text} {n : Nat} (h : length? text = some n) :
    n ≤ text.length ∧ byteLength (text.take n) = n := by
  obtain ⟨timed, start, hs, rfl⟩ := longest_of_length? h
  obtain ⟨tail, rfl⟩ := hs.starts
  rw [List.take_left' rfl, List.length_append]
  exact ⟨Nat.le_add_right _ _, hs.form.ascii.byteLength⟩

/-- A date or a date-time is scanned as far as it goes. The scan of any bytes is never led beyond
their end; it finds nothing exactly where no date starts, and else the length of the longest start
of the form. The scan of the bytes of a text ends between two characters. So where a number starts,
the longest date or date-time is read if one starts there, and an integer or a decimal only if none
does; and so it is for the tokens of every text. -/
theorem scans_longest_form :
    (∀ bytes : List UInt8, ∃ found, scan? (byteText bytes) = some found ∧
      (found = none ↔ ∀ start, start <+: byteText bytes → ¬Form false start) ∧
      ∀ n, found = some n ↔
        ∃ timed start, Longest timed start (byteText bytes) ∧ start.length = n) ∧
    (∀ text, scan? (byteText (encoded text)) = some (length? text) ∧
      ∀ n, length? text = some n → n ≤ text.length ∧ byteLength (text.take n) = n) ∧
    (∀ c rest, Lexeme.StartsNumber c rest →
      (∀ timed start, Longest timed start (c :: rest) → Lexeme.next c rest =
        (.literal (if timed = true then .dateTime else .date) start, start.length - 1)) ∧
      ((∀ start, start <+: c :: rest → ¬Form false start) →
        ∃ kind n, (kind = .integer ∨ kind = .decimal) ∧
          Lexeme.next c rest = (.literal kind (c :: rest.take n), n))) ∧
    ∀ source, ∀ token ∈ Token.ofText source, ∀ kind text, token.lexeme = .literal kind text →
      kind ∈ Lexeme.numberKinds → ∃ before after : Text, source = before ++ after ∧
        token.span.start = before.byteLength ∧
        ((kind = .date ∧ Longest false text after) ∨
          (kind = .dateTime ∧ Longest true text after) ∨
          (kind = .integer ∨ kind = .decimal) ∧
            ∀ start, start <+: after → ¬Form false start) := by
  refine ⟨?_, ?_, ?_, ?_⟩
  · intro bytes
    exact ⟨_, scan?_eq _, length?_eq_none_iff, fun n => length?_eq_some_iff⟩
  · intro text
    refine ⟨?_, fun n => byteLength_take⟩
    rw [scan?_eq, length?_byteText]
  · intro c rest h
    exact ⟨fun timed start => Lexeme.next_longest h, Lexeme.next_undated h⟩
  · intro source token hm kind text
    exact Token.longest_of_mem hm

end Timestamp
end EntityQuery
