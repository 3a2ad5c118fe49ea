import EntityQuery.Proofs.Lexeme.Separator

/-! The lexemes of a text, without their places, and texts that are always read as the same
lexemes: whatever comes after them, or if a separator comes after them. -/
namespace EntityQuery
open Unicode

theorem Token.exists_next {pos pending : Nat} {text : Text} {token : Token}
    (h : token ∈ ofTextFrom pos pending text) : ∃ (before : Text) (c : Char) (rest : Text),
      text = before ++ c :: rest ∧ token.span.start = pos + before.byteLength ∧
      isBlank c = false ∧ (Lexeme.next c rest).1 = token.lexeme := by
  induction text generalizing pos pending with
  | nil => cases h
  | cons c rest ih =>
    have hr {pending : Nat} (h : token ∈ ofTextFrom (pos + c.utf8Size) pending rest) :
        ∃ (before : Text) (d : Char) (more : Text), c :: rest = before ++ d :: more ∧
          token.span.start = pos + before.byteLength ∧
          isBlank d = false ∧ (Lexeme.next d more).1 = token.lexeme := by
      obtain ⟨before, d, more, rfl, hs, hn⟩ := ih h
      refine ⟨c :: before, d, more, rfl, ?_, hn⟩
      rw [hs, Text.byteLength, Nat.add_assoc]
    cases pending with
    | succ pending => exact hr h
    | zero =>
      rw [ofTextFrom] at h
      split at h
      · exact hr h
      · rename_i hb
        rcases List.mem_cons.mp h with rfl | h
        · exact ⟨[], c, rest, rfl, rfl, Bool.eq_false_iff.mpr hb, rfl⟩
        · exact hr h

namespace Lexeme

def ofText (text : Text) : List Lexeme :=
  (Token.ofText text).map Token.lexeme

theorem ofTextFrom_lexemes (text : Text) (pos pending : Nat) :
    (Token.ofTextFrom pos pending text).map Token.lexeme = ofText (text.drop pending) := by
  induction text generalizing pos pending with
  | nil => simp [Token.ofTextFrom, ofText, Token.ofText]
  | cons c rest ih =>
    cases pending with
    | succ pending => exact ih _ pending
    | zero =>
      rw [List.drop_zero, ofText, Token.ofText, Token.ofTextFrom, Token.ofTextFrom]
      by_cases hb : isBlank c
      · rw [if_pos hb, if_pos hb, ih, ih]
      · simp only [hb, Bool.false_eq_true, if_false, List.map_cons, ih]

theorem ofText_nil : ofText [] = [] := rfl

theorem ofText_blank {c : Char} (h : isBlank c = true) (rest : Text) :
    ofText (c :: rest) = ofText rest := by
  rw [ofText, Token.ofText, Token.ofTextFrom, if_pos h, ofTextFrom_lexemes, List.drop_zero]

theorem ofText_next {c : Char} (h : isBlank c = false) (rest : Text) :
    ofText (c :: rest) = (next c rest).1 :: ofText (rest.drop (next c rest).2) := by
  rw [ofText, Token.ofText, Token.ofTextFrom, h]
  simp only [Bool.false_eq_true, if_false, List.map_cons, ofTextFrom_lexemes]

theorem exists_next {lexeme : Lexeme} {text : Text} (h : lexeme ∈ ofText text) :
    ∃ c rest, isBlank c = false ∧ (next c rest).1 = lexeme := by
  obtain ⟨token, hm, rfl⟩ := List.mem_map.mp h
  obtain ⟨before, c, rest, -, -, hb, hn⟩ := Token.exists_next hm
  exact ⟨c, rest, hb, hn⟩

/-- Whatever comes after it, the text is read as the lexemes. -/
def Reads (text : Text) (lexemes : List Lexeme) : Prop :=
  ∀ tail, ofText (text ++ tail) = lexemes ++ ofText tail

/-- Before a separator and at the end, the text is read as the lexemes. -/
def ReadsBefore (text : Text) (lexemes : List Lexeme) : Prop :=
  ∀ tail, Ends tail → ofText (text ++ tail) = lexemes ++ ofText tail

variable {a b : Text} {as bs : List Lexeme}

theorem reads_nil : Reads [] [] := fun _ => rfl

theorem Reads.before (h : Reads a as) : ReadsBefore a as := fun tail _ => h tail

theorem Reads.append (ha : Reads a as) (hb : Reads b bs) : Reads (a ++ b) (as ++ bs) := by
  intro tail
  rw [List.append_assoc, ha, hb, List.append_assoc]

theorem Reads.append_before (ha : Reads a as) (hb : ReadsBefore b bs) :
    ReadsBefore (a ++ b) (as ++ bs) := by
  intro tail ht
  rw [List.append_assoc, ha, hb tail ht, List.append_assoc]

theorem ReadsBefore.append (ha : ReadsBefore a as) (he : Ends b) (hb : ReadsBefore b bs) :
    ReadsBefore (a ++ b) (as ++ bs) := by
  intro tail ht
  rw [List.append_assoc, ha _ (he.append ht), hb tail ht, List.append_assoc]

theorem ReadsBefore.append_reads (ha : ReadsBefore a as) {c : Char} {rest : Text}
    (he : separates c = true) (hb : Reads (c :: rest) bs) :
    Reads (a ++ c :: rest) (as ++ bs) := by
  intro tail
  have h := ha (c :: rest ++ tail) (ends_cons.mpr he)
  rw [List.append_assoc, h, hb, List.append_assoc]

theorem ReadsBefore.ofText (h : ReadsBefore a as) : ofText a = as := by
  simpa [ofText_nil] using h [] ends_nil

theorem reads_blank {c : Char} (h : isBlank c = true) : Reads [c] [] :=
  fun tail => ofText_blank h tail

theorem reads_single {c : Char} {lexeme : Lexeme} (hb : isBlank c = false)
    (h : ∀ tail, next c tail = (lexeme, 0)) : Reads [c] [lexeme] := by
  intro tail
  rw [List.singleton_append, ofText_next hb, h, List.drop_zero]
  rfl

/-- A lexeme that is found with its own extent before every separator is read there. -/
theorem readsBefore_next {lexeme : Lexeme} {c : Char} {more : Text} (hb : isBlank c = false)
    (h : ∀ tail, Ends tail → next c (more ++ tail) = (lexeme, more.length)) :
    ReadsBefore (c :: more) [lexeme] := by
  intro tail ht
  rw [List.cons_append, ofText_next hb, h tail ht, List.drop_left' rfl]
  rfl

theorem reads_openParen : Reads ['('] [.openParen] :=
  reads_single rfl fun _ => rfl

theorem reads_closeParen : Reads [')'] [.closeParen] :=
  reads_single rfl fun _ => rfl

theorem reads_comma : Reads [','] [.comma] :=
  reads_single rfl fun _ => rfl

theorem reads_star : Reads ['*'] [.star] :=
  reads_single rfl fun _ => rfl

theorem reads_space : Reads [' '] [] :=
  reads_blank rfl

/-- What starts with a letter or a higher character is a word or nothing. -/
theorem next_of_le {c : Char} (h : 0x41 ≤ c.toNat) (rest : Text) :
    next c rest = if startsWord c then word c rest else (illegal [c], 0) := by
  have hd : c.isDigit = false := by
    cases hd : c.isDigit with
    | false => rfl
    | true => exact absurd (isDigit_bounds hd).2 (by omega)
  have hm : ∀ mark : Char, mark.toNat < 0x41 → c ≠ mark := by
    rintro mark hl rfl
    omega
  unfold next
  simp [hd, hm '=' (by decide), hm '*' (by decide), hm ',' (by decide), hm '(' (by decide),
    hm ')' (by decide), hm '<' (by decide), hm '>' (by decide), hm '!' (by decide),
    hm '#' (by decide), hm '\'' (by decide), hm '"' (by decide), hm '-' (by decide)]

theorem takeWhile_append_ends {p : Char → Bool} {more tail : Text} (hm : ∀ c ∈ more, p c = true)
    (ht : ∀ c ∈ tail.head?, p c = false) : (more ++ tail).takeWhile p = more := by
  rw [List.takeWhile_append_of_pos hm]
  cases tail with
  | nil => simp
  | cons c rest => simp [ht c (by simp)]

theorem readsBefore_word {c : Char} {more : Text} (hc : startsWord c = true)
    (hm : ∀ d ∈ more, continuesWord d = true) :
    ReadsBefore (c :: more) [ofWord (c :: more)] := by
  intro tail ht
  have hw : (more ++ tail).takeWhile continuesWord = more :=
    takeWhile_append_ends hm fun d hd => not_continuesWord (ht d hd)
  rw [List.cons_append, ofText_next (not_isBlank_of_startsWord hc),
    next_of_le (le_of_startsWord hc), if_pos hc, word, hw]
  simp

def isWord : Text → Bool
  | [] => false
  | c :: more => startsWord c && more.all continuesWord

theorem readsBefore_isWord {text : Text} {lexeme : Lexeme} (hw : isWord text = true)
    (ho : ofWord text = lexeme) : ReadsBefore text [lexeme] := by
  cases text with
  | nil => cases hw
  | cons c more =>
    simp only [isWord, Bool.and_eq_true, List.all_eq_true] at hw
    rw [← ho]
    exact readsBefore_word hw.1 hw.2

end Lexeme
end EntityQuery
