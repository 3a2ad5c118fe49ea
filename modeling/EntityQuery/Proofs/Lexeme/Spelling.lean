import EntityQuery.Proofs.Lexeme.Case
import EntityQuery.Proofs.Lexeme.Literal

/-! How the lexemes are written. What is read as a lexeme is written in one of its spellings, or it
is a quoted text or a host expression that nothing closes; and every spelling is read as its lexeme
wherever a separator comes next. -/
namespace EntityQuery
open Text Unicode

namespace Lexeme

def keywordSpellings : Lexeme → List String
  | select => ["select"]
  | clause .source => ["from"]
  | clause .filter => ["where"]
  | clause .ordering => ["order"]
  | clause .limit => ["limit"]
  | clause .offset => ["offset"]
  | byWord => ["by"]
  | and => ["and"]
  | or => ["or"]
  | not => ["not"]
  | direction .asc => ["asc", "ascending"]
  | direction .desc => ["desc", "descending"]
  | comparator .like => ["like"]
  | null => ["null"]
  | _ => []

def signs : Lexeme → List Text
  | comparator .eq => [['=']]
  | comparator .neq => [['<', '>'], ['!', '=']]
  | comparator .gt => [['>']]
  | comparator .lt => [['<']]
  | comparator .gte => [['>', '=']]
  | comparator .lte => [['<', '=']]
  | star => [['*']]
  | comma => [[',']]
  | openParen => [['(']]
  | closeParen => [[')']]
  | _ => []

/-- A character that stands for no lexeme: none starts with it, or only with another one after
it. -/
def Stray (c : Char) : Prop :=
  isBlank c = false ∧ startsWord c = false ∧ c.isDigit = false ∧
    c ∉ ['=', '*', ',', '(', ')', '<', '>', '\'', '"']

inductive Written : Lexeme → Text → Prop where
  | keyword {lexeme : Lexeme} {spelling : String} {text : Text}
      (h : spelling ∈ lexeme.keywordSpellings) (hs : sameWord spelling.toList text = true) :
    Written lexeme text
  | sign {lexeme : Lexeme} {text : Text} (h : text ∈ lexeme.signs) : Written lexeme text
  | literal {kind : LiteralKind} {text : Text} (h : Spelled kind text) :
    Written (.literal kind text) text
  | stray {c : Char} (h : Stray c) : Written (.illegal [c]) [c]

/-- A text that starts with a quote of which none closes it, or with the opening of a host
expression of which no part closes as many brackets as it opens. -/
inductive Unclosed : Text → Prop where
  | string {q : Char} {rest : Text} (hq : IsQuote q)
      (h : ∀ content tail, rest = content ++ q :: tail → Body q content → tail.head? = some q) :
    Unclosed (q :: rest)
  | hostExpression {inner : Text}
      (h : ∀ part, part <+: '[' :: inner → part.count '[' = part.count ']' → part = []) :
    Unclosed ('#' :: '[' :: inner)

theorem closing_eq_none {q : Char} (hq : IsQuote q) {rest : Text} : closing q rest = none ↔
    ∀ content tail, rest = content ++ q :: tail → Body q content → tail.head? = some q := by
  constructor
  · rintro h content tail rfl hb
    by_contra ht
    rw [closing_body hq hb ht] at h
    cases h
  · intro h
    by_contra hn
    obtain ⟨n, hn⟩ := Option.ne_none_iff_exists'.mp hn
    obtain ⟨content, tail, he, -, hb, ht⟩ := exists_body hq hn
    exact ht (h content tail he hb)

theorem forall_prefix_cons {p : Text → Prop} {c : Char} {rest : Text} :
    (∀ part, part <+: c :: rest → p part) ↔ p [] ∧ ∀ part, part <+: rest → p (c :: part) := by
  simp only [List.prefix_cons_iff]
  constructor
  · exact fun h => ⟨h [] (.inl rfl), fun part hr => h _ (.inr ⟨part, rfl, hr⟩)⟩
  · rintro ⟨hn, hr⟩ _ (rfl | ⟨part, rfl, h⟩)
    · exact hn
    · exact hr part h

theorem closingBracket_eq_none {depth : Nat} (hd : depth ≠ 0) {text : Text} :
    closingBracket depth text = none ↔
      ∀ part, part <+: text → part.count '[' + depth ≠ part.count ']' := by
  induction text generalizing depth with
  | nil => simp [closingBracket, hd]
  | cons c rest ih =>
    rw [forall_prefix_cons, closingBracket]
    split
    · subst c
      rw [Option.map_eq_none_iff, ih (by omega)]
      simp [hd, Nat.add_assoc, Nat.add_comm 1]
    · split
      · subst c
        split
        · obtain rfl : depth = 1 := by omega
          simp only [reduceCtorEq, false_iff, not_and, Classical.not_forall]
          exact fun _ => ⟨[], List.nil_prefix, by simp⟩
        · obtain ⟨outer, rfl⟩ : ∃ outer, depth = outer + 1 := ⟨depth - 1, by omega⟩
          rw [Option.map_eq_none_iff, ih (by omega)]
          simp [← Nat.add_assoc]
      · rw [Option.map_eq_none_iff, ih hd]
        simp [*]

theorem closingBracket_host {inner : Text} : closingBracket 0 ('[' :: inner) = none ↔
    ∀ part, part <+: '[' :: inner → part.count '[' = part.count ']' → part = [] := by
  rw [closingBracket, if_pos rfl, Option.map_eq_none_iff, closingBracket_eq_none (by decide),
    forall_prefix_cons]
  simp

theorem Unclosed.next {c : Char} {rest : Text} (h : Unclosed (c :: rest)) :
    isBlank c = false ∧ Lexeme.next c rest = (illegal (c :: rest), rest.length) := by
  cases h with
  | string hq h =>
    rw [(next_quote hq).2, (closing_eq_none hq).mpr h]
    exact ⟨(@next_quote [] c hq).1, rfl⟩
  | hostExpression h =>
    rw [next_host, closingBracket_host.mpr h]
    exact ⟨rfl, rfl⟩

theorem Unclosed.ofText {text : Text} (h : Unclosed text) : ofText text = [illegal text] := by
  cases text with
  | nil => cases h
  | cons c rest =>
    obtain ⟨hb, hn⟩ := h.next
    rw [ofText_next hb, hn, List.drop_length]
    rfl

theorem mem_keywords {lexeme : Lexeme} {spelling : String} :
    (spelling, lexeme) ∈ keywords ↔ spelling ∈ lexeme.keywordSpellings := by
  constructor
  · have hk : ∀ entry ∈ keywords, entry.1 ∈ entry.2.keywordSpellings := by decide
    exact hk (spelling, lexeme)
  · revert spelling
    cases lexeme with
    | clause clause => cases clause <;> decide
    | direction direction => cases direction <;> decide
    | comparator op => cases op <;> decide
    | literal kind text => exact fun h => nomatch h
    | illegal text => exact fun h => nomatch h
    | _ => decide

theorem ofWord_keyword {lexeme : Lexeme} {spelling : String} (h : (spelling, lexeme) ∈ keywords) :
    isWord spelling.toList = true ∧ ofWord spelling.toList = lexeme := by
  have hk : ∀ entry ∈ keywords,
      isWord entry.1.toList = true ∧ ofWord entry.1.toList = entry.2 := by
    decide +kernel
  exact hk _ h

theorem written_word {c : Char} {more : Text} (hc : startsWord c = true)
    (hm : ∀ d ∈ more, continuesWord d = true) : Written (ofWord (c :: more)) (c :: more) := by
  obtain ⟨keyword, lexeme, hk, hs, ho⟩ | ⟨-, -, -, ho⟩ | ho := ofWord_cases (c :: more)
  · rw [ho]
    exact .keyword (mem_keywords.mp hk) hs
  · rw [ho]
    exact .literal (.word hc hm ho)
  · rw [ho]
    exact .literal (.word hc hm ho)

section Next
variable {c : Char} {rest : Text}

theorem next_written_word (hc : startsWord c = true) :
    Written (next c rest).1 (c :: rest.take (next c rest).2) := by
  have ht : rest.take (rest.takeWhile continuesWord).length = rest.takeWhile continuesWord :=
    (List.prefix_iff_eq_take.mp (List.takeWhile_prefix _)).symm
  rw [next_of_le (le_of_startsWord hc), if_pos hc, word, ht]
  exact written_word hc fun d hd => List.mem_takeWhile_imp hd

theorem next_written_literal {kind : LiteralKind} {text : Text}
    (h : (next c rest).1 = literal kind text) :
    Written (next c rest).1 (c :: rest.take (next c rest).2) := by
  obtain ⟨hs, ht⟩ := next_spelled h
  rw [h, ← ht]
  exact .literal hs

theorem next_written_number (h : StartsNumber c rest) :
    Written (next c rest).1 (c :: rest.take (next c rest).2) := by
  obtain ⟨kind, text, hl⟩ : ∃ kind text, (next c rest).1 = literal kind text := by
    rw [(next_number h).2, number]
    split <;> exact ⟨_, _, rfl⟩
  exact next_written_literal hl

theorem next_written_quote (hq : IsQuote c) :
    Written (next c rest).1 (c :: rest.take (next c rest).2) ∨ Unclosed (c :: rest) := by
  cases h : closing c rest with
  | none => exact .inr (.string hq ((closing_eq_none hq).mp h))
  | some n => exact .inl (next_written_literal (by rw [(next_quote hq).2, h]; rfl))

theorem next_written_host :
    Written (next '#' ('[' :: rest)).1 ('#' :: ('[' :: rest).take (next '#' ('[' :: rest)).2) ∨
      Unclosed ('#' :: '[' :: rest) := by
  cases h : closingBracket 0 ('[' :: rest) with
  | none => exact .inr (.hostExpression (closingBracket_host.mp h))
  | some n => exact .inl (next_written_literal (by rw [next_host, h]; rfl))

/-- Whether more than one character is read if `d` follows the stray character `c`. -/
def Joins (c d : Char) : Prop :=
  c = '!' ∧ d = '=' ∨ c = '#' ∧ d = '[' ∨ c = '-' ∧ d.isDigit = true

theorem Stray.next (h : Stray c) (hj : ∀ d ∈ rest.head?, ¬Joins c d) :
    next c rest = (illegal [c], 0) := by
  obtain ⟨-, hw, hd, hs⟩ := h
  simp only [List.mem_cons, List.not_mem_nil, or_false, not_or] at hs
  obtain ⟨h1, h2, h3, h4, h5, h6, h7, h8, h9⟩ := hs
  have follows {mark : Char} {p : Char → Bool} (hp : ∀ d, p d = true → c = mark → Joins c d) :
      (c = mark && (rest.head?.map p).getD false) = false := by
    rw [Bool.eq_false_iff]
    simp only [Bool.and_eq_true, decide_eq_true_eq, ne_eq, not_and]
    intro hc hf
    cases hr : rest.head? with
    | none => simp [hr] at hf
    | some d => exact hj d hr (hp d (by simpa [hr] using hf) hc)
  have hm := @follows '!' (· == '=') fun d hd hc => .inl ⟨hc, by simpa using hd⟩
  have hb := @follows '#' (· == '[') fun d hd hc =>
    .inr (.inl ⟨hc, by simpa using hd⟩)
  have hn := @follows '-' Char.isDigit fun d hd hc => .inr (.inr ⟨hc, hd⟩)
  unfold Lexeme.next
  simp only [h1, h2, h3, h4, h5, h6, h7, h8, h9, hm, hb, hn, hw, hd, decide_false, Bool.or_self,
    Bool.false_eq_true, if_false]

theorem next_lt (he : rest.head? ≠ some '=') (hg : rest.head? ≠ some '>') :
    next '<' rest = (comparator .lt, 0) := by
  cases rest with
  | nil => rfl
  | cons d more =>
    simp only [List.head?_cons, ne_eq, Option.some.injEq] at he hg
    simp [Lexeme.next, he, hg]

theorem next_gt (he : rest.head? ≠ some '=') : next '>' rest = (comparator .gt, 0) := by
  cases rest with
  | nil => rfl
  | cons d more =>
    simp only [List.head?_cons, ne_eq, Option.some.injEq] at he
    simp [Lexeme.next, he]

/-- What is read is a lexeme in one of its spellings, or what nothing closes. -/
theorem next_written (hb : isBlank c = false) :
    Written (next c rest).1 (c :: rest.take (next c rest).2) ∨ Unclosed (c :: rest) := by
  by_cases hw : startsWord c = true
  · exact .inl (next_written_word hw)
  by_cases hd : c.isDigit = true
  · exact .inl (next_written_number (.inl hd))
  by_cases hs : c ∈ ['=', '*', ',', '(', ')', '<', '>', '\'', '"']
  · simp only [List.mem_cons, List.not_mem_nil, or_false] at hs
    rcases hs with rfl | rfl | rfl | rfl | rfl | rfl | rfl | rfl | rfl
    · exact .inl (.sign (.head _))
    · exact .inl (.sign (.head _))
    · exact .inl (.sign (.head _))
    · exact .inl (.sign (.head _))
    · exact .inl (.sign (.head _))
    · by_cases he : rest.head? = some '='
      · obtain ⟨more, rfl⟩ := List.head?_eq_some_iff.mp he
        exact .inl (.sign (.head _))
      by_cases hg : rest.head? = some '>'
      · obtain ⟨more, rfl⟩ := List.head?_eq_some_iff.mp hg
        exact .inl (.sign (.head _))
      rw [next_lt he hg]
      exact .inl (.sign (.head _))
    · by_cases he : rest.head? = some '='
      · obtain ⟨more, rfl⟩ := List.head?_eq_some_iff.mp he
        exact .inl (.sign (.head _))
      rw [next_gt he]
      exact .inl (.sign (.head _))
    · exact next_written_quote (.inl rfl)
    · exact next_written_quote (.inr rfl)
  have hstray : Stray c := ⟨hb, by simpa using hw, by simpa using hd, hs⟩
  by_cases hj : ∀ d ∈ rest.head?, ¬Joins c d
  · rw [hstray.next hj]
    exact .inl (.stray hstray)
  simp only [Classical.not_forall, Classical.not_not] at hj
  obtain ⟨d, hr, hj⟩ := hj
  obtain ⟨more, rfl⟩ := List.head?_eq_some_iff.mp hr
  rcases hj with ⟨rfl, rfl⟩ | ⟨rfl, rfl⟩ | ⟨rfl, hn⟩
  · exact .inl (.sign (.tail _ (.head _)))
  · exact next_written_host
  · exact .inl (next_written_number (.inr ⟨rfl, d, more, rfl, hn⟩))

end Next

section Reads
variable {lexeme : Lexeme} {text : Text}

theorem Stray.reads {c : Char} (h : Stray c) : ReadsBefore [c] [illegal [c]] := by
  refine readsBefore_next h.1 fun tail ht => h.next fun d hd => ?_
  rintro (⟨-, rfl⟩ | ⟨-, rfl⟩ | ⟨-, hn⟩)
  · exact ht.head?_ne (by decide) hd
  · exact ht.head?_ne (by decide) hd
  · simp [not_isDigit_of_separates (ht d hd)] at hn

theorem readsBefore_sign (h : text ∈ lexeme.signs) : ReadsBefore text [lexeme] := by
  cases lexeme with
  | comparator op =>
    cases op with
    | lt =>
      obtain rfl := List.mem_singleton.mp h
      exact readsBefore_next rfl fun tail ht =>
        next_lt (ht.head?_ne (by decide)) (ht.head?_ne (by decide))
    | gt =>
      obtain rfl := List.mem_singleton.mp h
      exact readsBefore_next rfl fun tail ht => next_gt (ht.head?_ne (by decide))
    | neq =>
      obtain rfl | rfl := List.mem_pair.mp h
      · exact readsBefore_next rfl fun _ _ => rfl
      · exact readsBefore_next rfl fun _ _ => rfl
    | eq | gte | lte =>
      obtain rfl := List.mem_singleton.mp h
      exact readsBefore_next rfl fun _ _ => rfl
    | like => cases h
  | star | comma | openParen | closeParen =>
    obtain rfl := List.mem_singleton.mp h
    exact readsBefore_next rfl fun _ _ => rfl
  | _ => cases h

theorem readsBefore_keyword {spelling : String} (h : spelling ∈ lexeme.keywordSpellings)
    (hs : sameWord spelling.toList text = true) : ReadsBefore text [lexeme] := by
  have hk := mem_keywords.mpr h
  obtain ⟨hw, ho⟩ := ofWord_keyword hk
  have hn := text?_of_keyword hk
  refine readsBefore_isWord ?_ ?_
  · rw [← isWord_asciiLower, ← sameWord_iff.mp hs, isWord_asciiLower, hw]
  · rw [ofWord_sameWord hs (by rw [ho, hn]), ho]

theorem Written.reads (h : Written lexeme text) : ReadsBefore text [lexeme] := by
  cases h with
  | keyword h hs => exact readsBefore_keyword h hs
  | sign h => exact readsBefore_sign h
  | literal h => exact h.reads
  | stray h => exact h.reads

/-- Whether the text is what a lexeme stands for: its own text if it has one, or else one of its
signs or, whatever the case of the letters, one of its words. A truth value is one of two words. -/
def Spells (lexeme : Lexeme) (text : Text) : Prop :=
  match lexeme.text? with
  | some carried => carried = text ∧ (lexeme = .literal .boolean text →
      ∃ truth ∈ ["true", "false"], sameWord truth.toList text = true)
  | none => text ∈ lexeme.signs ∨
      ∃ spelling ∈ lexeme.keywordSpellings, sameWord spelling.toList text = true

theorem spells_illegal (text : Text) : Spells (.illegal text) text :=
  ⟨rfl, fun h => nomatch h⟩

theorem text?_of_signs (h : text ∈ lexeme.signs) :
    lexeme.text? = none := by
  cases lexeme with
  | literal kind text => cases h
  | illegal text => cases h
  | _ => rfl

theorem Spelled.boolean (h : Spelled .boolean text) :
    ∃ truth ∈ ["true", "false"], sameWord truth.toList text = true := by
  cases h with
  | word hc hm hw =>
    obtain ⟨keyword, lexeme, hk, -, ho⟩ | ⟨truth, ht, hs, -⟩ | ho := ofWord_cases _
    · have hn := text?_of_keyword hk
      rw [← ho, hw] at hn
      cases hn
    · exact ⟨truth, ht, hs⟩
    · rw [hw] at ho
      cases ho

theorem Written.spells (h : Written lexeme text) : lexeme.Spells text := by
  cases h with
  | keyword h hs =>
    rw [Spells, text?_of_keyword (mem_keywords.mpr h)]
    exact .inr ⟨_, h, hs⟩
  | sign h =>
    rw [Spells, text?_of_signs h]
    exact .inl h
  | literal h =>
    refine ⟨rfl, fun hl => ?_⟩
    obtain ⟨rfl, -⟩ := Lexeme.literal.inj hl
    exact h.boolean
  | stray h => exact spells_illegal _

theorem Written.exists_stray {carried : Text} (h : Written (.illegal carried) text) :
    ∃ c, text = [c] ∧ Stray c := by
  cases h with
  | keyword h hs => cases h
  | sign h => cases h
  | stray h => exact ⟨_, rfl, h⟩

theorem Written.ne_nil (h : Written lexeme text) : text ≠ [] := by
  rintro rfl
  have hr : ofText [] = [lexeme] := h.reads.ofText
  cases hr

theorem Unclosed.ne_nil (h : Unclosed text) : text ≠ [] := by
  cases h <;> exact List.cons_ne_nil _ _

end Reads

end Lexeme
end EntityQuery
