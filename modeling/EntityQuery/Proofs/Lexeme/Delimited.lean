import Mathlib.Algebra.Group.Nat.Even
import EntityQuery.Proofs.Lexeme.Boundary

/-! Where quoted texts and host expressions end. A quoted text ends at the quote that stands after
whole units and is not doubled; there is at most one such quote. A host expression ends with the
first bracket by which as many are closed as were opened, and none of its brackets is closed while
none is open. What has no such end is illegal up to the end of the text. -/
namespace EntityQuery
open Unicode

namespace Text

/-- What an opening quote `q` before `rest` encloses: whole units, up to a quote that is not
doubled. -/
def Encloses (q : Char) (rest content : Text) : Prop :=
  Body q content ∧ ∃ tail, rest = content ++ q :: tail ∧ tail.head? ≠ some q

section Quoted
variable {q : Char} {rest content other : Text}

theorem closing_eq_some_iff (hq : IsQuote q) {n : Nat} :
    closing q rest = some n ↔ ∃ content, Encloses q rest content ∧ n = content.length + 1 := by
  constructor
  · intro h
    obtain ⟨content, tail, he, hn, hb, ht⟩ := exists_body hq h
    exact ⟨content, ⟨hb, tail, he, ht⟩, hn⟩
  · rintro ⟨content, ⟨hb, tail, rfl, ht⟩, rfl⟩
    exact closing_body hq hb ht

theorem closing_eq_none_iff (hq : IsQuote q) :
    closing q rest = none ↔ ∀ content, ¬Encloses q rest content := by
  rw [Lexeme.closing_eq_none hq]
  constructor
  · rintro h content ⟨hb, tail, he, ht⟩
    exact ht (h content tail he hb)
  · intro h content tail he hb
    by_contra ht
    exact h content ⟨hb, tail, he, ht⟩

theorem Encloses.take (h : Encloses q rest content) :
    rest.take (content.length + 1) = content ++ [q] := by
  obtain ⟨-, tail, rfl, -⟩ := h
  rw [List.append_cons, List.take_left' (by simp)]

theorem Encloses.unique (hq : IsQuote q) (h : Encloses q rest content)
    (ho : Encloses q rest other) : content = other := by
  have hc := (closing_eq_some_iff hq).mpr ⟨content, h, rfl⟩
  have hn := (closing_eq_some_iff hq).mpr ⟨other, ho, rfl⟩
  have ht := h.take
  rw [Option.some.inj (hc.symm.trans hn), ho.take] at ht
  exact (List.append_cancel_right ht).symm

end Quoted

section Slashes
variable {a b : Text}

def endSlashes (text : Text) : Nat :=
  (text.reverse.takeWhile (· == '\\')).length

theorem endSlashes_append (a b : Text) : endSlashes (a ++ b) =
    if endSlashes b = b.length then endSlashes a + b.length else endSlashes b := by
  unfold endSlashes
  rw [List.reverse_append, List.takeWhile_append, List.length_reverse]
  by_cases h : (b.reverse.takeWhile (· == '\\')).length = b.length
  · rw [if_pos h, if_pos h, List.length_append, List.length_reverse, Nat.add_comm]
  · rw [if_neg h, if_neg h]

theorem even_endSlashes_append (ha : Even (endSlashes a)) (hb : Even (endSlashes b)) :
    Even (endSlashes (a ++ b)) := by
  rw [endSlashes_append]
  split
  · rename_i h
    exact ha.add (h ▸ hb)
  · exact hb

theorem even_endSlashes_concat (a : Text) {c : Char} (hc : c ≠ '\\') :
    Even (endSlashes (a ++ [c])) := by
  have h : endSlashes (a ++ [c]) = 0 := by simp [endSlashes, hc]
  rw [h]
  exact Even.zero

/-- Every backslash among whole units has a character to stand before. -/
theorem Body.even_endSlashes {q : Char} (hq : IsQuote q) {content : Text} (h : Body q content) :
    Even (endSlashes content) := by
  induction h with
  | nil => exact Even.zero
  | @escaped c rest h ih =>
    have hu : Even (endSlashes ['\\', c]) := by
      by_cases hc : c = '\\'
      · rw [hc]
        decide
      · exact even_endSlashes_concat ['\\'] hc
    exact even_endSlashes_append hu ih
  | doubled h ih => exact even_endSlashes_append (even_endSlashes_concat [q] hq.ne_backslash) ih
  | plain hb hp h ih => exact even_endSlashes_append (even_endSlashes_concat [] hb) ih

end Slashes
end Text

namespace Lexeme
open Text

/-- A text of at least two characters with as many opening as closing brackets. -/
def Balanced (text : Text) : Prop :=
  2 ≤ text.length ∧ text.count '[' = text.count ']'

structure ShortestBalanced (start text : Text) : Prop where
  balanced : Balanced start
  starts : start <+: text
  shortest (other : Text) : Balanced other → other <+: text → start.length ≤ other.length

/-- How many characters belong to a bracketed text, or none, by a count of open brackets that cannot
go below zero: nothing at all if a bracket is closed while none is open. -/
def bracketScan? : Nat → Text → Option (Option Nat)
  | _, [] => some none
  | depth, c :: rest =>
    if c = '[' then (bracketScan? (depth + 1) rest).map (Option.map (· + 1))
    else if c = ']' then
      match depth with
      | 0 => none
      | left + 1 =>
        if left = 0 then some (some 1)
        else (bracketScan? left rest).map (Option.map (· + 1))
    else (bracketScan? depth rest).map (Option.map (· + 1))

section Brackets
variable {depth n : Nat} {text inner part start : Text}

theorem bracketScan?_eq (hd : depth ≠ 0) (text : Text) :
    bracketScan? depth text = some (closingBracket depth text) := by
  induction text generalizing depth with
  | nil => rfl
  | cons c rest ih =>
    rw [closingBracket]
    unfold bracketScan?
    by_cases ho : c = '['
    · rw [if_pos ho, if_pos ho, ih (by omega)]
      rfl
    rw [if_neg ho, if_neg ho]
    by_cases hc : c = ']'
    · obtain ⟨left, rfl⟩ : ∃ left, depth = left + 1 := ⟨depth - 1, by omega⟩
      rw [if_pos hc, if_pos hc]
      dsimp only
      by_cases hl : left = 0
      · rw [if_pos hl, if_pos (by omega)]
      · rw [if_neg hl, if_neg (by omega), ih hl]
        rfl
    · rw [if_neg hc, if_neg hc, ih hd]
      rfl

theorem bracketScan?_host (inner : Text) :
    bracketScan? 0 ('[' :: inner) = some (closingBracket 0 ('[' :: inner)) := by
  rw [bracketScan?, if_pos rfl, bracketScan?_eq (by omega), closingBracket, if_pos rfl]
  rfl

/-- Only from an opening bracket on is the count safe. -/
example : bracketScan? 0 "a]".toList = none := by decide

theorem closingBracket_le (hd : depth ≠ 0) (h : closingBracket depth text = some n)
    (hp : part <+: text) (hc : part.count '[' + depth = part.count ']') : n ≤ part.length := by
  -- The part has an end of its own, and that is the end of every text that starts with it.
  obtain ⟨m, hm⟩ : ∃ m, closingBracket depth part = some m := by
    apply Option.ne_none_iff_exists'.mp
    intro hn
    exact (closingBracket_eq_none hd).mp hn part List.prefix_rfl hc
  obtain ⟨more, rfl⟩ := hp
  have hw := closingBracket_append hm more
  rw [h] at hw
  obtain ⟨a, rest, rfl, hl, -⟩ := exists_bracketed hm
  have hn := Option.some.inj hw
  rw [List.length_append]
  omega

theorem exists_closed (hd : depth ≠ 0) (h : closingBracket depth text = some n) :
    ∃ a, a <+: text ∧ a.length = n ∧ a.count '[' + depth = a.count ']' := by
  obtain ⟨a, tail, rfl, hl, ha⟩ := exists_bracketed h
  refine ⟨a, List.prefix_append a tail, hl, ?_⟩
  by_contra hc
  have hn : closingBracket depth a = none := by
    apply (closingBracket_eq_none hd).mpr
    intro part hp he
    have hle := closingBracket_le hd ha hp he
    rw [hp.eq_of_length_le (by omega)] at he
    exact hc he
  rw [ha] at hn
  cases hn

theorem balanced_start_iff : part <+: '#' :: '[' :: inner ∧ Balanced part ↔
    ∃ more, part = '#' :: '[' :: more ∧ more <+: inner ∧
      more.count '[' + 1 = more.count ']' := by
  constructor
  · rintro ⟨hp, hl, hc⟩
    obtain rfl | ⟨bracketed, rfl, hb⟩ := List.prefix_cons_iff.mp hp
    · cases hl
    obtain rfl | ⟨more, rfl, hm⟩ := List.prefix_cons_iff.mp hb
    · exact absurd hl (by decide)
    · exact ⟨more, rfl, hm, by simpa using hc⟩
  · rintro ⟨more, rfl, hp, hc⟩
    refine ⟨by simpa using hp, ?_, ?_⟩
    · rw [List.length_cons, List.length_cons]
      omega
    · simpa using hc

theorem closingBracket_none_iff : closingBracket 0 ('[' :: inner) = none ↔
    ∀ part, part <+: '#' :: '[' :: inner → ¬Balanced part := by
  rw [closingBracket, if_pos rfl, Option.map_eq_none_iff, closingBracket_eq_none (by decide)]
  constructor
  · intro h part hp hb
    obtain ⟨more, -, hm, hc⟩ := balanced_start_iff.mp ⟨hp, hb⟩
    exact h more hm hc
  · intro h more hm hc
    obtain ⟨hp, hb⟩ := balanced_start_iff.mpr ⟨more, rfl, hm, hc⟩
    exact h _ hp hb

theorem exists_shortest (h : closingBracket 0 ('[' :: inner) = some n) :
    ∃ start, ShortestBalanced start ('#' :: '[' :: inner) ∧ start.length = n + 1 := by
  rw [closingBracket, if_pos rfl, Option.map_eq_some_iff] at h
  obtain ⟨m, hm, rfl⟩ := h
  obtain ⟨a, ha, rfl, hc⟩ := exists_closed (by decide) hm
  obtain ⟨hp, hb⟩ := balanced_start_iff.mpr ⟨a, rfl, ha, hc⟩
  refine ⟨_, ⟨hb, hp, ?_⟩, rfl⟩
  intro other ho hs
  obtain ⟨more, rfl, hi, he⟩ := balanced_start_iff.mp ⟨hs, ho⟩
  simpa using closingBracket_le (by decide) hm hi he

theorem ShortestBalanced.unique {other : Text} (h : ShortestBalanced start text)
    (ho : ShortestBalanced other text) : start = other := by
  have hle := h.shortest other ho.balanced ho.starts
  have hge := ho.shortest start h.balanced h.starts
  exact (List.prefix_of_prefix_length_le h.starts ho.starts hle).eq_of_length (by omega)

/-- The extent of a host expression is that of its shortest balanced start. -/
theorem closingBracket_some_iff : closingBracket 0 ('[' :: inner) = some n ↔
    ∃ start, ShortestBalanced start ('#' :: '[' :: inner) ∧ start.length = n + 1 := by
  constructor
  · exact exists_shortest
  · rintro ⟨start, hs, hl⟩
    obtain ⟨m, hm⟩ : ∃ m, closingBracket 0 ('[' :: inner) = some m := by
      apply Option.ne_none_iff_exists'.mp
      intro hn
      exact closingBracket_none_iff.mp hn start hs.starts hs.balanced
    obtain ⟨other, ho, hn⟩ := exists_shortest hm
    rw [hs.unique ho] at hl
    rw [hm]
    congr 1
    omega

end Brackets
end Lexeme

namespace Token
open Lexeme Text

def first? (pos : Nat) (text : Text) : Option Token :=
  (ofTextFrom pos 0 text).head?

section Delimited
variable {c : Char} {rest : Text} {kind : LiteralKind} {extent : Option Nat} {pos stop : Nat}
  {text : Text}

theorem first?_iff (hb : isBlank c = false) {lexeme : Lexeme} :
    first? pos (c :: rest) = some ⟨lexeme, pos, stop⟩ ↔ (next c rest).1 = lexeme ∧
      stop = pos + byteLength (c :: rest.take (next c rest).2) := by
  rw [first?, ofTextFrom_next hb, List.head?_cons, byteLength, ← Nat.add_assoc]
  simp only [Option.some.injEq, Token.mk.injEq, Span.mk.injEq, true_and]
  exact and_congr_right fun _ => eq_comm

theorem first?_literal_iff (hb : isBlank c = false)
    (hn : next c rest = delimited kind c rest extent) :
    first? pos (c :: rest) = some ⟨.literal kind text, pos, stop⟩ ↔
      ∃ n, extent = some n ∧ text = c :: rest.take n ∧ stop = pos + byteLength text := by
  rw [first?_iff hb, hn]
  constructor
  · rintro ⟨hl, hs⟩
    obtain ⟨n, he, -, ht, hm⟩ := delimited_literal hl
    rw [hm, ← ht] at hs
    exact ⟨n, he, ht, hs⟩
  · rintro ⟨n, rfl, rfl, hs⟩
    exact ⟨rfl, hs⟩

theorem first?_illegal_iff (hb : isBlank c = false)
    (hn : next c rest = delimited kind c rest extent) :
    first? pos (c :: rest) = some ⟨.illegal text, pos, stop⟩ ↔
      extent = none ∧ text = c :: rest ∧ stop = pos + byteLength text := by
  rw [first?_iff hb, hn]
  cases extent with
  | some n => simp [delimited, literalOf]
  | none =>
    simp only [delimited, List.take_length, Lexeme.illegal.injEq, true_and]
    constructor
    · rintro ⟨rfl, hs⟩
      exact ⟨rfl, hs⟩
    · rintro ⟨rfl, hs⟩
      exact ⟨rfl, hs⟩

end Delimited

section Quoted
variable {q : Char} {rest text : Text} {pos stop : Nat}

theorem first?_string_iff (hq : IsQuote q) :
    first? pos (q :: rest) = some ⟨.literal .string text, pos, stop⟩ ↔
      ∃ content, Encloses q rest content ∧ text = q :: content ++ [q] ∧
        stop = pos + byteLength text := by
  obtain ⟨hb, hn⟩ := @next_quote rest q hq
  rw [first?_literal_iff hb hn]
  constructor
  · rintro ⟨n, he, ht, hs⟩
    obtain ⟨content, hc, rfl⟩ := (closing_eq_some_iff hq).mp he
    rw [hc.take] at ht
    exact ⟨content, hc, ht, hs⟩
  · rintro ⟨content, hc, ht, hs⟩
    refine ⟨content.length + 1, (closing_eq_some_iff hq).mpr ⟨content, hc, rfl⟩, ?_, hs⟩
    rw [hc.take]
    exact ht

theorem first?_unquoted_iff (hq : IsQuote q) :
    first? pos (q :: rest) = some ⟨.illegal text, pos, stop⟩ ↔
      (∀ content, ¬Encloses q rest content) ∧ text = q :: rest ∧
        stop = pos + byteLength text := by
  obtain ⟨hb, hn⟩ := @next_quote rest q hq
  rw [first?_illegal_iff hb hn, closing_eq_none_iff hq]

end Quoted

section Host
variable {inner text : Text} {pos stop : Nat}

theorem first?_host_iff :
    first? pos ('#' :: '[' :: inner) = some ⟨.literal .hostExpression text, pos, stop⟩ ↔
      ShortestBalanced text ('#' :: '[' :: inner) ∧ stop = pos + byteLength text := by
  rw [first?_literal_iff rfl next_host]
  constructor
  · rintro ⟨n, he, ht, hs⟩
    obtain ⟨start, hc, hl⟩ := closingBracket_some_iff.mp he
    have he : text = start := by
      rw [ht, ← List.take_succ_cons, ← hl]
      exact (List.prefix_iff_eq_take.mp hc.starts).symm
    exact ⟨he ▸ hc, hs⟩
  · rintro ⟨hc, hs⟩
    obtain ⟨hl, -⟩ := hc.balanced
    refine ⟨text.length - 1, closingBracket_some_iff.mpr ⟨text, hc, by omega⟩, ?_, hs⟩
    rw [← List.take_succ_cons, Nat.sub_add_cancel (by omega)]
    exact List.prefix_iff_eq_take.mp hc.starts

theorem first?_unbalanced_iff :
    first? pos ('#' :: '[' :: inner) = some ⟨.illegal text, pos, stop⟩ ↔
      (∀ part, part <+: '#' :: '[' :: inner → ¬Balanced part) ∧ text = '#' :: '[' :: inner ∧
        stop = pos + byteLength text := by
  rw [first?_illegal_iff rfl next_host, closingBracket_none_iff]

end Host

theorem unquote_string {source text : Text}
    (h : Lexeme.literal .string text ∈ Lexeme.ofText source) : ∃ q content, IsQuote q ∧
      text = q :: content ++ [q] ∧ unquote text = content ∧ Body q content ∧
      Even (endSlashes content) := by
  obtain ⟨q, content, hq, hb, rfl⟩ := (spelled_of_mem h).quoted
  refine ⟨q, content, hq, rfl, ?_, hb, hb.even_endSlashes hq⟩
  rw [unquote, enclosed?_quoted hq]

/-- Literals with an end are read up to it, wherever they stand. A quote opens a string exactly if
it encloses whole units, and the string ends at the one quote that closes them; else all is illegal
up to the end of the text. So every string without its quotes is whole units, and no backslash of it
is left over at its end. The count of open brackets of a host expression is never led below zero;
the expression is its shortest balanced start, and all is illegal exactly if no start is
balanced. -/
theorem literals_end_where_closed :
    (∀ q, IsQuote q → ∀ pos rest,
      (∀ text stop, first? pos (q :: rest) = some ⟨.literal .string text, pos, stop⟩ ↔
        ∃ content, Encloses q rest content ∧ text = q :: content ++ [q] ∧
          stop = pos + byteLength text) ∧
      (∀ text stop, first? pos (q :: rest) = some ⟨.illegal text, pos, stop⟩ ↔
        (∀ content, ¬Encloses q rest content) ∧ text = q :: rest ∧
          stop = pos + byteLength text) ∧
      ∀ content other, Encloses q rest content → Encloses q rest other → content = other) ∧
    (∀ source text, Lexeme.literal .string text ∈ Lexeme.ofText source →
      ∃ q content, IsQuote q ∧ text = q :: content ++ [q] ∧ unquote text = content ∧
        Body q content ∧ Even (endSlashes content)) ∧
    ∀ pos inner,
      bracketScan? 0 ('[' :: inner) = some (closingBracket 0 ('[' :: inner)) ∧
      (∀ text stop,
        first? pos ('#' :: '[' :: inner) = some ⟨.literal .hostExpression text, pos, stop⟩ ↔
          ShortestBalanced text ('#' :: '[' :: inner) ∧ stop = pos + byteLength text) ∧
      ∀ text stop, first? pos ('#' :: '[' :: inner) = some ⟨.illegal text, pos, stop⟩ ↔
        (∀ part, part <+: '#' :: '[' :: inner → ¬Balanced part) ∧ text = '#' :: '[' :: inner ∧
          stop = pos + byteLength text := by
  refine ⟨?_, ?_, ?_⟩
  · intro q hq pos rest
    refine ⟨fun text stop => first?_string_iff hq, fun text stop => first?_unquoted_iff hq, ?_⟩
    intro content other hc ho
    exact hc.unique hq ho
  · intro source text h
    exact unquote_string h
  · intro pos inner
    exact ⟨bracketScan?_host inner, fun text stop => first?_host_iff,
      fun text stop => first?_unbalanced_iff⟩

theorem literals_end_where_closed_nested :
    IsQuote '\'' ∧
    (∃ content, Encloses '\'' "it\\'s ''so''\\\\' OR b = 'c'".toList content ∧
      "'it\\'s ''so''\\\\'".toList = '\'' :: content ++ ['\'']) ∧
    (∀ content, ¬Encloses '\'' "open\\' ''".toList content) ∧
    (∃ q content, IsQuote q ∧ "'so''\\\\'".toList = q :: content ++ [q] ∧ Body q content ∧
      Even (endSlashes content)) ∧
    ShortestBalanced "#[a[0]]".toList "#[a[0]], ]".toList ∧
    ∀ part, part <+: "#[a[0], 1".toList → ¬Balanced part := by
  obtain ⟨hstring, hunquote, hhost⟩ := literals_end_where_closed
  have hq : IsQuote '\'' := .inl rfl
  obtain ⟨hclosed, -, -⟩ := hstring '\'' hq 4 "it\\'s ''so''\\\\' OR b = 'c'".toList
  obtain ⟨-, hopen, -⟩ := hstring '\'' hq 4 "open\\' ''".toList
  obtain ⟨-, hbalanced, -⟩ := hhost 4 "a[0]], ]".toList
  obtain ⟨-, -, hunbalanced⟩ := hhost 4 "a[0], 1".toList
  obtain ⟨content, hc, ht, -⟩ :=
    (hclosed "'it\\'s ''so''\\\\'".toList 20).mp (by decide +kernel)
  obtain ⟨q, other, hother, hto, -, hb, he⟩ :=
    hunquote "a = 'so''\\\\'".toList "'so''\\\\'".toList (by decide +kernel)
  refine ⟨hq, ⟨content, hc, ht⟩, ?_, ⟨q, other, hother, hto, hb, he⟩, ?_, ?_⟩
  · exact ((hopen "'open\\' ''".toList 14).mp (by decide +kernel)).1
  · exact ((hbalanced "#[a[0]]".toList 11).mp (by decide +kernel)).1
  · exact ((hunbalanced "#[a[0], 1".toList 13).mp (by decide +kernel)).1

end Token
end EntityQuery
