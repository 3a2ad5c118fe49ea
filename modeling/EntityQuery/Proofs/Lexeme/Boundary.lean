import EntityQuery.Proofs.Lexeme.Layout

/-! Reading up to a single quote. No rule of the lexemes goes on with a single quote, but for a
quoted text and a host expression, and these end where they are closed. So what is read before a
quoted text does not hang on what stands between its quotes. -/
namespace EntityQuery
open Text Timestamp Unicode

section Scanning
variable (a tail : Text)

theorem Text.digitRun_before : digitRun (a ++ '\'' :: tail) = digitRun a := by
  induction a with
  | nil => rfl
  | cons c rest ih => rw [List.cons_append, digitRun, digitRun, ih]

theorem Text.fractionLength_before :
    fractionLength (a ++ '\'' :: tail) = fractionLength a := by
  cases a with
  | nil => rfl
  | cons c rest =>
    by_cases hc : c = '.'
    · subst hc
      simp only [List.cons_append, fractionLength, digitRun_before]
    · simp [fractionLength, hc]

theorem Timestamp.fits_before (template : Text) (h : '\'' ∉ template) :
    fits template (a ++ '\'' :: tail) = fits template a := by
  induction template generalizing a with
  | nil => rfl
  | cons p template ih =>
    simp only [List.mem_cons, not_or] at h
    cases a with
    | nil =>
      have hq : (if p = '0' then Char.isDigit '\'' else '\'' == p) = false := by
        split
        · rfl
        · exact beq_eq_false_iff_ne.mpr h.1
      rw [List.nil_append, fits, fits, hq, Bool.false_and]
    | cons c rest => rw [List.cons_append, fits, fits, ih rest h.2]

theorem Timestamp.zoneLength_before : zoneLength (a ++ '\'' :: tail) = zoneLength a := by
  cases a with
  | nil => rfl
  | cons c rest =>
    have hf := fits_before rest tail "00:00".toList (by decide)
    rw [List.cons_append, zoneLength, zoneLength, hf]

theorem Timestamp.length?_before : length? (a ++ '\'' :: tail) = length? a := by
  have hdate := fits_before a tail "0000-00-00".toList (by decide)
  unfold length?
  rw [hdate]
  split
  · obtain ⟨date, time, rfl, hd⟩ := exists_fits ‹_›
    have hclock := fits_before time tail "T00:00:00".toList (by decide)
    rw [List.append_assoc, IsDate.drop hd, IsDate.drop hd]
    simp only [hclock]
    split
    · obtain ⟨clock, more, rfl, hc⟩ := exists_fits ‹_›
      obtain ⟨fraction, rest, rfl, hf, hfl⟩ := exists_fraction more
      have hfraction := fractionLength_before (fraction ++ rest) tail
      have hdrop := IsClock.drop_fraction hc fraction (rest ++ '\'' :: tail)
      rw [List.append_assoc, IsClock.drop hc, IsClock.drop hc, hfraction, hfl,
        IsClock.drop_fraction hc, List.append_assoc, hdrop, zoneLength_before]
    · rfl
  · rfl

end Scanning

namespace Lexeme
variable {c : Char} {a tail other : Text}

theorem literalOf_within (kind : LiteralKind) {n : Nat} (h : n ≤ a.length) :
    literalOf kind c (a ++ tail) n = literalOf kind c a n := by
  rw [literalOf, literalOf, List.take_append_of_le_length h]

theorem length?_le {n : Nat} (h : length? (c :: a) = some n) : n - 1 ≤ a.length := by
  obtain ⟨b, rest, he, hl, -⟩ := exists_timestamp h
  have hc := congrArg List.length he
  rw [List.length_append, List.length_cons] at hc
  omega

theorem number_before : number c (a ++ '\'' :: tail) = number c a := by
  have ht := length?_before (c :: a) tail
  rw [List.cons_append] at ht
  unfold number
  rw [ht]
  split
  · exact literalOf_within _ (length?_le ‹_›)
  · have hd : (a ++ '\'' :: tail).drop (digitRun a) = a.drop (digitRun a) ++ '\'' :: tail :=
      List.drop_append_of_le_length (digitRun_le a)
    have hn : digitRun a + fractionLength (a.drop (digitRun a)) ≤ a.length := by
      have hl := digitRun_le a
      have hf := fractionLength_le (a.drop (digitRun a))
      rw [List.length_drop] at hf
      omega
    simp only [digitRun_before, hd, fractionLength_before]
    exact literalOf_within _ hn

theorem word_before : word c (a ++ '\'' :: tail) = word c a := by
  have ht : (a ++ '\'' :: tail).takeWhile continuesWord = a.takeWhile continuesWord := by
    rw [List.takeWhile_append]
    have hq : ('\'' :: tail).takeWhile continuesWord = [] :=
      List.takeWhile_cons_of_neg (by decide +kernel)
    split
    · rw [hq, List.append_nil]
      exact (List.takeWhile_prefix _).eq_of_length ‹_› |>.symm
    · rfl
  rw [word, word, ht]

theorem exists_within {part rest text : Text} (h : a ++ text = part ++ rest)
    (hl : part.length ≤ a.length) : ∃ more, a = part ++ more ∧ rest = more ++ text := by
  obtain ⟨more, rfl⟩ : part <+: a :=
    List.prefix_of_prefix_length_le (h ▸ List.prefix_append part rest)
      (List.prefix_append a text) hl
  rw [List.append_assoc] at h
  exact ⟨more, rfl, (List.append_cancel_left h).symm⟩

theorem closing_within {q : Char} (hq : IsQuote q) {n : Nat}
    (h : closing q (a ++ '\'' :: tail) = some n) (hn : n ≤ a.length) :
    closing q (a ++ '\'' :: other) = some n := by
  obtain ⟨content, rest, he, rfl, hb, ht⟩ := exists_body hq h
  obtain ⟨more, rfl, rfl⟩ := @exists_within a (content ++ [q]) rest _ (by simpa using he)
    (by simpa using hn)
  have hh : (more ++ '\'' :: other).head? = (more ++ '\'' :: tail).head? := by
    simp only [List.head?_append, List.head?_cons]
  rw [List.append_assoc, List.append_assoc, List.singleton_append]
  exact closing_body hq hb (hh ▸ ht)

theorem closingBracket_within {depth n : Nat}
    (h : closingBracket depth (a ++ '\'' :: tail) = some n) (hn : n ≤ a.length) :
    closingBracket depth (a ++ '\'' :: other) = some n := by
  obtain ⟨part, rest, he, rfl, hp⟩ := exists_bracketed h
  obtain ⟨more, rfl, -⟩ := exists_within he hn
  rw [List.append_assoc]
  exact closingBracket_append hp _

theorem delimited_within {kind : LiteralKind} {extent extent' : Option Nat}
    (he : ∀ n, extent = some n → n ≤ a.length → extent' = some n)
    (h : (delimited kind c (a ++ '\'' :: tail) extent).2 ≤ a.length) :
    delimited kind c (a ++ '\'' :: other) extent' =
      delimited kind c (a ++ '\'' :: tail) extent := by
  cases extent with
  | none =>
    rw [delimited, List.length_append, List.length_cons] at h
    omega
  | some n =>
    have hn : n ≤ a.length := h
    rw [he n rfl hn, delimited, delimited, literalOf_within kind hn, literalOf_within kind hn]

/-- Without a quoted text or a host expression, only a word, a number and the next character are
looked at. -/
theorem next_congr {rest rest' : Text} (hq : ¬IsQuote c)
    (hb : ¬(c = '#' ∧ rest.head? = some '[')) (hh : rest'.head? = rest.head?)
    (hn : number c rest' = number c rest) (hw : word c rest' = word c rest) :
    next c rest' = next c rest := by
  have hq' : (c = '\'' || c = '"') = false := by simpa [IsQuote] using hq
  have hb' : (c = '#' && (rest.head?.map (· == '[')).getD false) = false := by
    rw [Bool.eq_false_iff]
    cases hr : rest.head? <;> simp_all
  unfold next
  rw [hh, hn, hw]
  simp only [hq', hb', Bool.false_eq_true, if_false]

theorem next_bracket {rest : Text} (h : rest.head? = some '[') :
    next '#' rest = delimited .hostExpression '#' rest (closingBracket 0 rest) := by
  obtain ⟨inner, rfl⟩ := List.head?_eq_some_iff.mp h
  exact next_host

/-- A lexeme that ends before a single quote is the same whatever stands after that quote. -/
theorem next_within (h : (next c (a ++ '\'' :: tail)).2 ≤ a.length) :
    next c (a ++ '\'' :: other) = next c (a ++ '\'' :: tail) := by
  have hh : (a ++ '\'' :: other).head? = (a ++ '\'' :: tail).head? := by
    simp only [List.head?_append, List.head?_cons]
  by_cases hq : IsQuote c
  · rw [(next_quote hq).2] at h ⊢
    rw [(next_quote hq).2]
    exact delimited_within (fun n => closing_within hq) h
  by_cases hb : c = '#' ∧ (a ++ '\'' :: tail).head? = some '['
  · obtain ⟨rfl, hc⟩ := hb
    rw [next_bracket hc] at h ⊢
    rw [next_bracket (hh.trans hc)]
    exact delimited_within (fun n => closingBracket_within) h
  · exact next_congr hq hb hh (number_before.trans number_before.symm)
      (word_before.trans word_before.symm)

end Lexeme

namespace Token
open Lexeme

theorem ofTextFrom_pending (text : Text) (pos pending : Nat) :
    ofTextFrom pos pending text =
      ofTextFrom (pos + byteLength (text.take pending)) 0 (text.drop pending) := by
  induction text generalizing pos pending with
  | nil => simp [ofTextFrom]
  | cons c rest ih =>
    cases pending with
    | zero => rfl
    | succ pending =>
      rw [ofTextFrom, ih, List.take_succ_cons, List.drop_succ_cons, byteLength, Nat.add_assoc]

theorem ofTextFrom_next {c : Char} (h : isBlank c = false) (pos : Nat) (rest : Text) :
    ofTextFrom pos 0 (c :: rest) =
      ⟨(next c rest).1, pos, pos + c.utf8Size + byteLength (rest.take (next c rest).2)⟩ ::
        ofTextFrom (pos + c.utf8Size) (next c rest).2 rest := by
  rw [ofTextFrom, h]
  rfl

theorem ofTextFrom_read {c : Char} {more rest : Text} {lexeme : Lexeme} (hb : isBlank c = false)
    (h : next c (more ++ rest) = (lexeme, more.length)) (pos : Nat) :
    ofTextFrom pos 0 (c :: more ++ rest) =
      ⟨lexeme, pos, pos + byteLength (c :: more)⟩ ::
        ofTextFrom (pos + byteLength (c :: more)) 0 rest := by
  rw [List.cons_append, ofTextFrom_next hb, h, ofTextFrom_pending, List.take_left' rfl,
    List.drop_left' rfl, byteLength, Nat.add_assoc]

theorem le_start {pos pending : Nat} {text : Text} {token : Token}
    (h : token ∈ ofTextFrom pos pending text) :
    pos + byteLength (text.take pending) ≤ token.span.start := by
  obtain ⟨before, written, after, -, hs, -⟩ := (layout_ofTextFrom text pos pending).written h
  rw [hs]
  exact Nat.le_add_right _ _

/-- If a token starts at a single quote, the tokens before it do not hang on what stands after that
quote. -/
theorem exists_before {before tail : Text} {pos pending : Nat} {token : Token}
    (hm : token ∈ ofTextFrom pos pending (before ++ '\'' :: tail))
    (hs : token.span.start = pos + before.byteLength) :
    pending ≤ before.length ∧ ∃ left, ∀ other,
      ofTextFrom pos pending (before ++ '\'' :: other) =
        left ++ ofTextFrom (pos + before.byteLength) 0 ('\'' :: other) := by
  induction before generalizing pos pending with
  | nil =>
    cases pending with
    | zero => exact ⟨Nat.le_refl 0, [], fun other => rfl⟩
    | succ pending =>
      have hl := le_start hm
      rw [hs, List.nil_append, List.take_succ_cons, byteLength, byteLength] at hl
      have hp : 0 < Char.utf8Size '\'' := Char.utf8Size_pos _
      omega
  | cons c rest ih =>
    rw [byteLength, ← Nat.add_assoc] at hs ⊢
    cases pending with
    | succ pending =>
      obtain ⟨hl, left, ht⟩ := ih hm hs
      exact ⟨Nat.succ_le_succ hl, left, ht⟩
    | zero =>
      refine ⟨Nat.zero_le _, ?_⟩
      cases hb : isBlank c with
      | true =>
        rw [List.cons_append, ofTextFrom, if_pos hb] at hm
        obtain ⟨-, left, ht⟩ := ih hm hs
        refine ⟨left, fun other => ?_⟩
        rw [List.cons_append, ofTextFrom, if_pos hb, ht]
      | false =>
        rw [List.cons_append, ofTextFrom_next hb] at hm
        rcases List.mem_cons.mp hm with rfl | hm
        · have hc : 0 < c.utf8Size := c.utf8Size_pos
          dsimp only at hs
          omega
        · obtain ⟨hl, left, ht⟩ := ih hm hs
          refine ⟨⟨(next c (rest ++ '\'' :: tail)).1, pos, pos + c.utf8Size +
            byteLength (rest.take (next c (rest ++ '\'' :: tail)).2)⟩ :: left, fun other => ?_⟩
          rw [List.cons_append, ofTextFrom_next hb, next_within hl, ht,
            List.take_append_of_le_length hl]
          rfl

end Token
end EntityQuery
