import Mathlib.Data.List.TakeWhile
import EntityQuery.Proofs.Lexeme.OfText
import EntityQuery.Proofs.Lexeme.Timestamp
import EntityQuery.Proofs.Text.Quoted

/-! The forms in which literals are written. Every literal has one of them, and every text of such
a form is read as that literal wherever a separator comes next. -/
namespace EntityQuery.Lexeme
open Text Timestamp Unicode

def IsWhole (text : Text) : Prop :=
  ∃ c ds, text = c :: ds ∧ (c.isDigit = true ∨ c = '-' ∧ ds ≠ []) ∧ Digits ds

inductive Spelled : LiteralKind → Text → Prop where
  | word {kind : LiteralKind} {c : Char} {more : Text} (hc : startsWord c = true)
      (hm : ∀ d ∈ more, continuesWord d = true)
      (hw : ofWord (c :: more) = .literal kind (c :: more)) : Spelled kind (c :: more)
  | integer {text : Text} (h : IsWhole text) : Spelled .integer text
  | decimal {whole ds : Text} (h : IsWhole whole) (hn : ds ≠ []) (hd : Digits ds) :
    Spelled .decimal (whole ++ '.' :: ds)
  | date {text : Text} (h : IsDate text) : Spelled .date text
  | dateTime {text : Text} (h : IsMoment text) : Spelled .dateTime text
  | string {q : Char} {content : Text} (hq : IsQuote q) (h : Body q content) :
    Spelled .string (q :: content ++ [q])
  | hostExpression {inner : Text}
      (h : closingBracket 0 ('[' :: inner) = some (inner.length + 1)) :
    Spelled .hostExpression ('#' :: '[' :: inner)

def StartsNumber (c : Char) (rest : Text) : Prop :=
  c.isDigit = true ∨ c = '-' ∧ ∃ d more, rest = d :: more ∧ d.isDigit = true

section Number
variable {c : Char} {rest : Text}

theorem next_number (h : StartsNumber c rest) :
    isBlank c = false ∧ next c rest = number c rest := by
  rcases h with h | ⟨rfl, d, more, rfl, hd⟩
  · have hm (mark : Char) (hn : mark.isDigit = false) : c ≠ mark := ne_of_isDigit h hn
    refine ⟨not_isBlank_of_isDigit h, ?_⟩
    simp [next, h, hm '=' rfl, hm '*' rfl, hm ',' rfl, hm '(' rfl, hm ')' rfl, hm '<' rfl,
      hm '>' rfl, hm '!' rfl, hm '#' rfl, hm '\'' rfl, hm '"' rfl]
  · exact ⟨rfl, by simp [next, hd]⟩

theorem next_quote {q : Char} (hq : IsQuote q) :
    isBlank q = false ∧ next q rest = delimited .string q rest (closing q rest) := by
  rcases hq with rfl | rfl <;> exact ⟨rfl, by simp [next]⟩

theorem next_host : next '#' ('[' :: rest) =
    delimited .hostExpression '#' ('[' :: rest) (closingBracket 0 ('[' :: rest)) := by
  simp [next]

theorem literalOf_append (kind : LiteralKind) (c : Char) (more tail : Text) :
    literalOf kind c (more ++ tail) more.length = (literal kind (c :: more), more.length) := by
  rw [literalOf, List.take_left']
  rfl

end Number

theorem IsFraction.not_digit {fraction tail : Text} (h : IsFraction fraction) (ht : Ends tail) :
    ∀ c ∈ (fraction ++ tail).head?, c.isDigit = false := by
  rcases h with rfl | ⟨ds, rfl, -, -⟩
  · exact fun c hc => not_isDigit_of_separates (ht c hc)
  · intro c hc
    obtain rfl : '.' = c := by simpa using hc
    rfl

theorem hyphen_not_mem {ds fraction : Text} (hd : Digits ds) (hf : IsFraction fraction) :
    '-' ∉ ds ++ fraction := by
  have hn {ds : Text} (hd : Digits ds) : '-' ∉ ds := fun hm => absurd (hd _ hm) (by decide)
  rw [List.mem_append, not_or]
  refine ⟨hn hd, ?_⟩
  rcases hf with rfl | ⟨es, rfl, -, he⟩
  · simp
  · simpa using hn he

theorem readsBefore_numeral {whole fraction : Text} (h : IsWhole whole) (hf : IsFraction fraction) :
    ReadsBefore (whole ++ fraction)
      [literal (if fraction.length = 0 then .integer else .decimal) (whole ++ fraction)] := by
  obtain ⟨c, ds, rfl, hc, hd⟩ := h
  have hc (tail : Text) : StartsNumber c (ds ++ fraction ++ tail) := by
    refine hc.imp_right fun ⟨he, hn⟩ => ⟨he, ?_⟩
    cases ds with
    | nil => exact absurd rfl hn
    | cons d more => exact ⟨d, more ++ fraction ++ tail, rfl, hd d (by simp)⟩
  rw [List.cons_append]
  refine readsBefore_next (next_number (hc [])).1 fun tail ht => ?_
  have ht0 := length?_none (c := c) (hyphen_not_mem hd hf) ht
  have hr : digitRun (ds ++ fraction ++ tail) = ds.length := by
    rw [List.append_assoc]
    exact digitRun_append hd (IsFraction.not_digit hf ht)
  have hl : fractionLength ((ds ++ fraction ++ tail).drop ds.length) = fraction.length := by
    rw [List.append_assoc, List.drop_left' rfl]
    exact fractionLength_append hf fun c hc => (ends_head ht c hc).1
  rw [(next_number (hc tail)).2, number, ht0]
  simp only [hr, hl]
  rw [← List.length_append, literalOf_append]

theorem readsBefore_date {text : Text} (h : IsDate text) :
    ReadsBefore text [literal .date text] := by
  cases text with
  | nil => exact absurd h.length (by decide)
  | cons c more =>
    have hn (rest : Text) := @next_number c rest (.inl h.head)
    refine readsBefore_next (hn []).1 fun tail ht => ?_
    have hl := length?_date h ht
    have hm : more.length = dateLength - 1 := by
      have := h.length
      rw [List.length_cons] at this
      rw [dateLength]
      omega
    rw [List.cons_append] at hl
    rw [(hn _).2, number, hl]
    simp only [if_true, ← hm, literalOf_append]

theorem readsBefore_moment {text : Text} (h : IsMoment text) :
    ReadsBefore text [literal .dateTime text] := by
  cases text with
  | nil => exact absurd h.length (by decide)
  | cons c more =>
    have hn (rest : Text) := @next_number c rest (.inl h.head)
    refine readsBefore_next (hn []).1 fun tail ht => ?_
    have hl := length?_moment h ht
    have hm : (c :: more).length ≠ dateLength := Nat.ne_of_gt h.length
    rw [List.cons_append] at hl
    rw [(hn _).2, number, hl]
    simp only [if_neg hm]
    exact literalOf_append .dateTime c more tail

/-- A quoted text is one literal, unless the closing quote is doubled by what comes after it. -/
theorem next_string {q : Char} {content tail : Text} (hq : IsQuote q) (h : Body q content)
    (ht : tail.head? ≠ some q) :
    next q (content ++ q :: tail) =
      (literal .string (q :: content ++ [q]), (content ++ [q]).length) := by
  have hl := literalOf_append .string q (content ++ [q]) tail
  rw [(next_quote hq).2, closing_body hq h ht, delimited, List.append_cons, List.cons_append]
  rw [List.length_append, List.length_singleton] at hl ⊢
  exact hl

theorem readsBefore_string {q : Char} {content : Text} (hq : IsQuote q) (h : Body q content) :
    ReadsBefore (q :: content ++ [q]) [literal .string (q :: content ++ [q])] := by
  rw [List.cons_append]
  refine readsBefore_next (@next_quote [] q hq).1 fun tail ht => ?_
  have hh : tail.head? ≠ some q := by
    rcases hq with rfl | rfl <;> exact ht.head?_ne (by decide)
  rw [List.append_assoc, List.singleton_append]
  exact next_string hq h hh

theorem closingBracket_append {depth n : Nat} {text : Text} (h : closingBracket depth text = some n)
    (tail : Text) : closingBracket depth (text ++ tail) = some n := by
  induction text generalizing depth n with
  | nil => simp [closingBracket] at h
  | cons c rest ih =>
    rw [List.cons_append]
    unfold closingBracket at h ⊢
    split at h
    · obtain ⟨m, hm, rfl⟩ := Option.map_eq_some_iff.mp h
      rw [if_pos ‹_›, ih hm]
      rfl
    · rw [if_neg ‹_›]
      split at h
      · rw [if_pos ‹_›]
        split at h
        · rw [if_pos ‹_›, h]
        · obtain ⟨m, hm, rfl⟩ := Option.map_eq_some_iff.mp h
          rw [if_neg ‹_›, ih hm]
          rfl
      · obtain ⟨m, hm, rfl⟩ := Option.map_eq_some_iff.mp h
        rw [if_neg ‹_›, ih hm]
        rfl

theorem readsBefore_host {inner : Text}
    (h : closingBracket 0 ('[' :: inner) = some (inner.length + 1)) :
    ReadsBefore ('#' :: '[' :: inner) [literal .hostExpression ('#' :: '[' :: inner)] := by
  refine readsBefore_next rfl fun tail ht => ?_
  have hc := closingBracket_append h tail
  rw [List.cons_append] at hc
  rw [List.cons_append, next_host, hc]
  exact literalOf_append .hostExpression '#' ('[' :: inner) tail

theorem Spelled.reads {kind : LiteralKind} {text : Text} (h : Spelled kind text) :
    ReadsBefore text [literal kind text] := by
  cases h with
  | word hc hm hw =>
    have hr := readsBefore_word hc hm
    rwa [hw] at hr
  | integer h => simpa using readsBefore_numeral h (.inl rfl)
  | decimal h hn hd => exact readsBefore_numeral h (.inr ⟨_, rfl, hn, hd⟩)
  | date h => exact readsBefore_date h
  | dateTime h => exact readsBefore_moment h
  | string hq h => exact readsBefore_string hq h
  | hostExpression h => exact readsBefore_host h

theorem ofWord_cases (word : Text) :
    (∃ keyword lexeme, (keyword, lexeme) ∈ keywords ∧ sameWord keyword.toList word = true ∧
      ofWord word = lexeme) ∨
    (∃ truth ∈ ["true", "false"], sameWord truth.toList word = true ∧
      ofWord word = literal .boolean word) ∨
    ofWord word = literal .identifier word := by
  unfold ofWord
  split
  · rename_i keyword lexeme hf
    have hs : sameWord keyword.toList word = true := by simpa using List.find?_some hf
    exact .inl ⟨keyword, lexeme, List.mem_of_find?_eq_some hf, hs, rfl⟩
  · split
    · rename_i ht
      obtain ht | ht := (Bool.or_eq_true _ _).mp ht
      · exact .inr (.inl ⟨"true", by simp, ht, rfl⟩)
      · exact .inr (.inl ⟨"false", by simp, ht, rfl⟩)
    · exact .inr (.inr rfl)

theorem text?_of_keyword {keyword : String} {lexeme : Lexeme} (h : (keyword, lexeme) ∈ keywords) :
    lexeme.text? = none := by
  have hk : ∀ entry ∈ keywords, entry.2.text? = none := by decide
  exact hk _ h

theorem ofWord_literal {word text : Text} {kind : LiteralKind}
    (h : ofWord word = literal kind text) :
    text = word ∧ (kind = .identifier ∨ kind = .boolean) := by
  obtain ⟨keyword, lexeme, hm, -, ho⟩ | ⟨truth, -, -, ho⟩ | ho := ofWord_cases word
  · have ht := text?_of_keyword hm
    rw [← ho, h] at ht
    cases ht
  · obtain ⟨rfl, rfl⟩ := Lexeme.literal.inj (h.symm.trans ho)
    exact ⟨rfl, .inr rfl⟩
  · obtain ⟨rfl, rfl⟩ := Lexeme.literal.inj (h.symm.trans ho)
    exact ⟨rfl, .inl rfl⟩

theorem Spelled.quoted {text : Text} (h : Spelled .string text) :
    ∃ q content, IsQuote q ∧ Body q content ∧ text = q :: content ++ [q] := by
  cases h with
  | word hc hm hw => simpa using (ofWord_literal hw).2
  | string hq hb => exact ⟨_, _, hq, hb, rfl⟩

theorem Spelled.whole {text : Text} (h : Spelled .integer text) : IsWhole text := by
  cases h with
  | word hc hm hw => simpa using (ofWord_literal hw).2
  | integer h => exact h

theorem Spelled.point {text : Text} (h : Spelled .decimal text) :
    ∃ whole ds, IsWhole whole ∧ ds ≠ [] ∧ Digits ds ∧ text = whole ++ '.' :: ds := by
  cases h with
  | word hc hm hw => simpa using (ofWord_literal hw).2
  | decimal h hn hd => exact ⟨_, _, h, hn, hd, rfl⟩

theorem delimited_literal {kind found : LiteralKind} {c : Char} {rest text : Text}
    {extent : Option Nat} (h : (delimited kind c rest extent).1 = literal found text) :
    ∃ n, extent = some n ∧ kind = found ∧ text = c :: rest.take n ∧
      (delimited kind c rest extent).2 = n := by
  cases extent with
  | none => cases h
  | some n =>
    obtain ⟨hk, ht⟩ := Lexeme.literal.inj h
    exact ⟨n, rfl, hk, ht.symm, rfl⟩

theorem exists_bracketed {depth n : Nat} {text : Text} (h : closingBracket depth text = some n) :
    ∃ a tail, text = a ++ tail ∧ a.length = n ∧ closingBracket depth a = some n := by
  induction text generalizing depth n with
  | nil => simp [closingBracket] at h
  | cons c rest ih =>
    have hs {k : Nat} (h : (closingBracket k rest).map (· + 1) = some n) :
        ∃ a tail, rest = a ++ tail ∧ a.length + 1 = n ∧
          (closingBracket k a).map (· + 1) = some n := by
      obtain ⟨m, hm, rfl⟩ := Option.map_eq_some_iff.mp h
      obtain ⟨a, tail, he, hl, ha⟩ := ih hm
      exact ⟨a, tail, he, by rw [hl], by rw [ha]; rfl⟩
    unfold closingBracket at h
    split at h
    · obtain ⟨a, tail, rfl, hl, ha⟩ := hs h
      exact ⟨c :: a, tail, rfl, hl, by rw [closingBracket, if_pos ‹_›, ha]⟩
    · split at h
      · split at h
        · refine ⟨[c], rest, rfl, Option.some.inj h, ?_⟩
          rw [closingBracket, if_neg ‹_›, if_pos ‹_›, if_pos ‹_›, h]
        · obtain ⟨a, tail, rfl, hl, ha⟩ := hs h
          exact ⟨c :: a, tail, rfl, hl, by
            rw [closingBracket, if_neg ‹_›, if_pos ‹_›, if_neg ‹_›, ha]⟩
      · obtain ⟨a, tail, rfl, hl, ha⟩ := hs h
        exact ⟨c :: a, tail, rfl, hl, by rw [closingBracket, if_neg ‹_›, if_neg ‹_›, ha]⟩

theorem spelled_host {rest text : Text} {kind : LiteralKind}
    (h : (next '#' ('[' :: rest)).1 = literal kind text) :
    Spelled kind text ∧ text = '#' :: ('[' :: rest).take (next '#' ('[' :: rest)).2 := by
  rw [next_host] at h ⊢
  obtain ⟨n, hn, rfl, rfl, h2⟩ := delimited_literal h
  rw [h2]
  refine ⟨?_, rfl⟩
  obtain ⟨a, tail, he, hl, ha⟩ := exists_bracketed hn
  have ht : ('[' :: rest).take n = a := by rw [he, List.take_left' hl]
  rw [ht]
  cases a with
  | nil => cases ha
  | cons c inner =>
    obtain ⟨rfl, -⟩ := List.cons.inj he
    rw [← hl] at ha
    exact .hostExpression ha

theorem spelled_string {q : Char} (hq : IsQuote q) {rest text : Text} {kind : LiteralKind}
    (h : (next q rest).1 = literal kind text) :
    Spelled kind text ∧ text = q :: rest.take (next q rest).2 := by
  rw [(next_quote hq).2] at h ⊢
  obtain ⟨n, hn, rfl, rfl, h2⟩ := delimited_literal h
  rw [h2]
  refine ⟨?_, rfl⟩
  obtain ⟨content, tail, rfl, rfl, hb, -⟩ := exists_body hq hn
  have ht : (content ++ q :: tail).take (content.length + 1) = content ++ [q] := by
    rw [List.append_cons, List.take_left' (by simp)]
  rw [ht]
  exact .string hq hb

theorem spelled_word {c : Char} (hc : startsWord c = true) {rest text : Text} {kind : LiteralKind}
    (h : (next c rest).1 = literal kind text) :
    Spelled kind text ∧ text = c :: rest.take (next c rest).2 := by
  rw [next_of_le (le_of_startsWord hc), if_pos hc] at h ⊢
  rw [word] at h ⊢
  obtain ⟨rfl, -⟩ := ofWord_literal h
  have hm : ∀ d ∈ rest.takeWhile continuesWord, continuesWord d = true :=
    fun d hd => List.mem_takeWhile_imp hd
  refine ⟨.word hc hm h, ?_⟩
  exact congrArg _ (List.prefix_iff_eq_take.mp (List.takeWhile_prefix _))

theorem exists_whole {c : Char} {rest : Text} (h : StartsNumber c rest) :
    ∃ ds tail, rest = ds ++ tail ∧ digitRun rest = ds.length ∧ IsWhole (c :: ds) := by
  obtain ⟨ds, tail, he, hd, hl⟩ := exists_digitRun rest
  refine ⟨ds, tail, he, hl, c, ds, rfl, h.imp_right ?_, hd⟩
  rintro ⟨hc, d, more, rfl, hm⟩
  refine ⟨hc, ?_⟩
  rintro rfl
  simp [digitRun, hm] at hl

theorem spelled_timestamp {c : Char} {rest text : Text} {kind : LiteralKind} {n : Nat}
    (hl : Timestamp.length? (c :: rest) = some n) (h : (number c rest).1 = literal kind text) :
    Spelled kind text ∧ text = c :: rest.take (number c rest).2 := by
  obtain ⟨a, tail, he, ha, hf⟩ := exists_timestamp hl
  rw [number, hl] at h ⊢
  obtain ⟨hk, ht⟩ := Lexeme.literal.inj h
  refine ⟨?_, ht.symm⟩
  cases a with
  | nil =>
    rcases hf with ⟨-, hf⟩ | ⟨-, hf⟩
    · exact absurd hf.length (by decide)
    · exact absurd hf.length (by decide)
  | cons d more =>
    rw [List.cons_append] at he
    obtain ⟨rfl, rfl⟩ := List.cons.inj he
    have hn : more.length = n - 1 := by rw [← ha]; rfl
    rw [List.take_left' hn] at ht
    subst ht
    rcases hf with ⟨hd, hf⟩ | ⟨hd, hf⟩
    · rw [if_pos hd] at hk
      exact hk ▸ .date hf
    · rw [if_neg hd] at hk
      exact hk ▸ .dateTime hf

theorem spelled_numeral {c : Char} {rest text : Text} {kind : LiteralKind}
    (hc : StartsNumber c rest) (hl : Timestamp.length? (c :: rest) = none)
    (h : (number c rest).1 = literal kind text) :
    Spelled kind text ∧ text = c :: rest.take (number c rest).2 := by
  obtain ⟨ds, tail, rfl, hr, hw⟩ := exists_whole hc
  obtain ⟨fraction, tail, rfl, hf, hfl⟩ := exists_fraction tail
  rw [number, hl] at h ⊢
  simp only [hr, List.drop_left' rfl, hfl] at h ⊢
  obtain ⟨hk, ht⟩ := Lexeme.literal.inj h
  refine ⟨?_, ht.symm⟩
  rw [← List.append_assoc, ← List.length_append, List.take_left' rfl] at ht
  subst ht
  rcases hf with rfl | ⟨es, rfl, hn, he⟩
  · rw [List.append_nil]
    exact hk ▸ .integer hw
  · rw [← List.cons_append]
    exact hk ▸ .decimal hw hn he

theorem spelled_number {c : Char} {rest text : Text} {kind : LiteralKind}
    (hc : StartsNumber c rest) (h : (next c rest).1 = literal kind text) :
    Spelled kind text ∧ text = c :: rest.take (next c rest).2 := by
  rw [(next_number hc).2] at h ⊢
  cases hl : Timestamp.length? (c :: rest) with
  | some n => exact spelled_timestamp hl h
  | none => exact spelled_numeral hc hl h

/-- Every literal is in a form of its kind. -/
theorem next_spelled {c : Char} {rest text : Text} {kind : LiteralKind}
    (h : (next c rest).1 = literal kind text) :
    Spelled kind text ∧ text = c :: rest.take (next c rest).2 := by
  by_cases hw : startsWord c
  · exact spelled_word hw h
  by_cases hq : IsQuote c
  · exact spelled_string hq h
  by_cases hn : StartsNumber c rest
  · exact spelled_number hn h
  by_cases hh : c = '#' ∧ ∃ inner, rest = '[' :: inner
  · obtain ⟨rfl, inner, rfl⟩ := hh
    exact spelled_host h
  exfalso
  have follows (p : Char → Bool) : (rest.head?.map p).getD false = true ↔
      ∃ d more, rest = d :: more ∧ p d = true := by
    cases rest <;> simp
  have hq' : (c = '\'' || c = '"') = false := by simpa [IsQuote] using hq
  have hn' : (c.isDigit || c = '-' && (rest.head?.map Char.isDigit).getD false) = false := by
    rw [Bool.eq_false_iff]
    simpa [StartsNumber, follows] using hn
  have hh' : (c = '#' && (rest.head?.map (· == '[')).getD false) = false := by
    rw [Bool.eq_false_iff]
    simpa [follows] using hh
  unfold next at h
  simp only [hw, hq', hn', hh', Bool.false_eq_true, if_false] at h
  split_ifs at h

theorem spelled_of_mem {source text : Text} {kind : LiteralKind}
    (h : literal kind text ∈ ofText source) : Spelled kind text := by
  obtain ⟨c, rest, -, hn⟩ := exists_next h
  exact (next_spelled hn).1

end EntityQuery.Lexeme
