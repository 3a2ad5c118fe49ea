import Mathlib.Data.List.Basic
import EntityQuery.Text.Quoted

/-! What may stand between two quotes, and what happens to it: where it ends, its form between
quotes of the other kind, and a name that is quoted and read again. -/
namespace EntityQuery.Text

def IsQuote (q : Char) : Prop :=
  q = '\'' ∨ q = '"'

theorem IsQuote.ne_backslash {q : Char} (h : IsQuote q) : q ≠ '\\' := by
  rcases h with rfl | rfl <;> decide

/-- What can stand between quotes `q`, unit by unit. -/
inductive Body (q : Char) : Text → Prop where
  | nil : Body q []
  | escaped (c : Char) {rest : Text} (h : Body q rest) : Body q ('\\' :: c :: rest)
  | doubled {rest : Text} (h : Body q rest) : Body q (q :: q :: rest)
  | plain {c : Char} (hb : c ≠ '\\') (hq : c ≠ q) {rest : Text} (h : Body q rest) :
    Body q (c :: rest)

section Closing
variable {q : Char} {content tail : Text}

theorem Body.append {a b : Text} (ha : Body q a) (hb : Body q b) : Body q (a ++ b) := by
  induction ha with
  | nil => exact hb
  | escaped c h ih => exact .escaped c ih
  | doubled h ih => exact .doubled ih
  | plain hb hq h ih => exact .plain hb hq ih

theorem closing_plain {c : Char} (hb : c ≠ '\\') (hq : c ≠ q) {rest : Text} (hr : rest ≠ []) :
    closing q (c :: rest) = (closing q rest).map (· + 1) := by
  cases rest with
  | nil => exact absurd rfl hr
  | cons d more => rw [closing, if_neg hb, if_pos hq]

theorem closing_body (hq : IsQuote q) (h : Body q content) (ht : tail.head? ≠ some q) :
    closing q (content ++ q :: tail) = some (content.length + 1) := by
  induction h with
  | nil =>
    cases tail with
    | nil => simp [closing]
    | cons c rest =>
      have hc : c ≠ q := by simpa using ht
      simp [closing, hq.ne_backslash, hc]
  | escaped c h ih => simp [closing, ih]
  | doubled h ih => simp [closing, hq.ne_backslash, ih]
  | plain hb hp h ih =>
    rw [List.cons_append, closing_plain hb hp (by simp), ih]
    rfl

theorem exists_body (hq : IsQuote q) {text : Text} {n : Nat} (h : closing q text = some n) :
    ∃ content tail, text = content ++ q :: tail ∧ n = content.length + 1 ∧ Body q content ∧
      tail.head? ≠ some q := by
  induction text using closing.induct q generalizing n with
  | case1 => simp [closing] at h
  | case2 =>
    rw [closing, if_pos rfl] at h
    exact ⟨[], [], rfl, (Option.some.inj h).symm, .nil, by simp⟩
  | case3 c hc => simp [closing, hc] at h
  | case4 d rest ih =>
    rw [closing, if_pos rfl, Option.map_eq_some_iff] at h
    obtain ⟨m, hm, rfl⟩ := h
    obtain ⟨content, tail, rfl, rfl, hb, ht⟩ := ih hm
    exact ⟨'\\' :: d :: content, tail, rfl, rfl, .escaped d hb, ht⟩
  | case5 c d rest hc hp ih =>
    rw [closing, if_neg hc, if_pos hp, Option.map_eq_some_iff] at h
    obtain ⟨m, hm, rfl⟩ := h
    obtain ⟨content, tail, he, rfl, hb, ht⟩ := ih hm
    exact ⟨c :: content, tail, by rw [he]; rfl, rfl, .plain hc hp hb, ht⟩
  | case6 c rest hc hp ih =>
    obtain rfl : c = q := Classical.not_not.mp hp
    rw [closing, if_neg hc, if_neg hp, if_pos rfl, Option.map_eq_some_iff] at h
    obtain ⟨m, hm, rfl⟩ := h
    obtain ⟨content, tail, rfl, rfl, hb, ht⟩ := ih hm
    exact ⟨c :: c :: content, tail, rfl, rfl, .doubled hb, ht⟩
  | case7 c d rest hc hp hd =>
    obtain rfl : c = q := Classical.not_not.mp hp
    rw [closing, if_neg hc, if_neg hp, if_neg hd] at h
    exact ⟨[], d :: rest, rfl, (Option.some.inj h).symm, .nil, by simpa using hd⟩

end Closing

theorem enclosed?_quoted {q : Char} (hq : IsQuote q) (content : Text) :
    enclosed? (q :: content ++ [q]) = some (q, content) := by
  have hl : (content ++ [q]).getLast? = some q := by simp
  cases content with
  | nil => simp [enclosed?, show q = '\'' ∨ q = '"' from hq]
  | cons c rest =>
    rw [List.cons_append, enclosed?, if_pos ⟨hq, hl⟩, List.dropLast_concat]
    simp

theorem enclosed?_of_head {c : Char} (hc : ¬IsQuote c) (rest : Text) :
    enclosed? (c :: rest) = none := by
  cases rest with
  | nil => rfl
  | cons d more =>
    rw [enclosed?, if_neg fun h => hc h.1]
    simp

theorem singleQuoted_single (content : Text) :
    singleQuoted ('\'' :: content ++ ['\'']) = content := by
  rw [singleQuoted, enclosed?_quoted (.inl rfl)]
  rfl

theorem singleQuoted_double (content : Text) :
    singleQuoted ('"' :: content ++ ['"']) = requote content := by
  rw [singleQuoted, enclosed?_quoted (.inr rfl)]
  rfl

theorem body_single (c : Char) (hc : c ≠ '\\') :
    Body '\'' (if c = '\'' then ['\'', '\''] else [c]) := by
  by_cases h : c = '\''
  · rw [if_pos h]
    exact .doubled .nil
  · rw [if_neg h]
    exact .plain hc h .nil

theorem requote_plain {c : Char} (hb : c ≠ '\\') (hq : c ≠ '"') (rest : Text) :
    requote (c :: rest) = (if c = '\'' then ['\'', '\''] else [c]) ++ requote rest := by
  cases rest with
  | nil => exact (List.append_nil _).symm
  | cons d more => rw [requote, if_neg hb, if_neg fun he => hq he.1]

theorem body_requote {content : Text} (h : Body '"' content) : Body '\'' (requote content) := by
  induction h with
  | nil => exact .nil
  | @escaped c rest h ih =>
    rw [requote, if_pos rfl]
    by_cases hc : c = '"'
    · rw [if_pos hc]
      exact .plain (by decide) (by decide) ih
    · rw [if_neg hc]
      exact .escaped c ih
  | doubled h ih =>
    rw [requote, if_neg (by decide), if_pos ⟨rfl, rfl⟩]
    exact .plain (by decide) (by decide) ih
  | plain hb hq h ih =>
    rw [requote_plain hb hq]
    exact (body_single _ hb).append ih

theorem body_singleQuoted {q : Char} (hq : IsQuote q) {content : Text} (h : Body q content) :
    Body '\'' (singleQuoted (q :: content ++ [q])) := by
  rcases hq with rfl | rfl
  · rwa [singleQuoted_single]
  · rw [singleQuoted_double]
    exact body_requote h

def doubled (text : Text) : Text :=
  text.flatMap fun c => if c = '\'' then ['\'', '\''] else [c]

theorem body_doubled {text : Text} (h : '\\' ∉ text) : Body '\'' (doubled text) := by
  induction text with
  | nil => exact .nil
  | cons c rest ih =>
    simp only [List.mem_cons, not_or] at h
    exact (body_single c (Ne.symm h.1)).append (ih h.2)

theorem unescape_plain {q c : Char} (hb : c ≠ '\\') (hq : c ≠ q) (rest : Text) :
    unescape q (c :: rest) = c :: unescape q rest := by
  cases rest with
  | nil => rfl
  | cons d more => rw [unescape, if_neg hb, if_neg fun he => hq he.1]

theorem unescape_single {c : Char} (hb : c ≠ '\\') (rest : Text) :
    unescape '\'' ((if c = '\'' then ['\'', '\''] else [c]) ++ rest) =
      c :: unescape '\'' rest := by
  by_cases h : c = '\''
  · rw [if_pos h, h, List.cons_append, List.singleton_append, unescape, if_neg (by decide),
      if_pos ⟨rfl, rfl⟩]
  · rw [if_neg h, List.singleton_append, unescape_plain hb h]

theorem unescape_doubled {text : Text} (h : '\\' ∉ text) :
    unescape '\'' (doubled text) = text := by
  induction text with
  | nil => rfl
  | cons c rest ih =>
    simp only [List.mem_cons, not_or] at h
    rw [doubled, List.flatMap_cons, ← doubled, unescape_single (Ne.symm h.1), ih h.2]

theorem unescape_requote {content : Text} (h : Body '"' content) :
    unescape '\'' (requote content) = unescape '"' content := by
  induction h with
  | nil => rfl
  | @escaped c rest h ih =>
    rw [requote, if_pos rfl, unescape, if_pos rfl, ← ih]
    by_cases hc : c = '"'
    · rw [if_pos hc, hc, List.singleton_append, unescape_plain (by decide) (by decide)]
    · rw [if_neg hc, List.cons_append, List.singleton_append, unescape, if_pos rfl]
  | doubled h ih =>
    rw [requote, if_neg (by decide), if_pos ⟨rfl, rfl⟩, unescape, if_neg (by decide),
      if_pos ⟨rfl, rfl⟩, unescape_plain (by decide) (by decide), ih]
  | plain hb hq h ih => rw [requote_plain hb hq, unescape_single hb, unescape_plain hb hq, ih]

theorem escape_cons (c : Char) (rest : Text) :
    escape (c :: rest) =
      (if c = '\\' then ['\\', '\\'] else if c = '\'' then ['\'', '\''] else [c]) ++
        escape rest := by
  rw [escape, List.flatMap_cons, ← escape]
  congr 1
  split <;> simp_all

theorem body_escape (text : Text) : Body '\'' (escape text) := by
  induction text with
  | nil => exact .nil
  | cons c rest ih =>
    rw [escape_cons]
    by_cases hb : c = '\\'
    · rw [if_pos hb]
      exact .escaped '\\' ih
    · rw [if_neg hb]
      exact (body_single c hb).append ih

theorem unescape_escape (text : Text) : unescape '\'' (escape text) = text := by
  induction text with
  | nil => rfl
  | cons c rest ih =>
    rw [escape_cons]
    by_cases hb : c = '\\'
    · rw [if_pos hb, hb]
      simp [unescape, ih]
    · rw [if_neg hb, unescape_single hb, ih]

theorem nameOf_quoted {text : Text} (h : '\\' ∉ text) :
    nameOf ('\'' :: doubled text ++ ['\'']) = text := by
  rw [nameOf, enclosed?_quoted (.inl rfl)]
  exact unescape_doubled h

end EntityQuery.Text
