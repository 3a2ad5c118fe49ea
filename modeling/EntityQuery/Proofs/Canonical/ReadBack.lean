import EntityQuery.Proofs.Canonical.Names
import EntityQuery.Proofs.Lexeme.Spelling

/-! Printed names that are read again. Every text is the name that some quoted text stands for. With
a blank or a quote in it, and no backslash, it is printed between quotes and means itself again; it
is printed bare otherwise, and then it means itself exactly if it is one identifier. -/
namespace EntityQuery.Canonical
open Grammar Lexeme Text

def quotedName (name : Text) : Name :=
  .quoted ('\'' :: escape name ++ ['\''])

theorem quotedName_meaning (name : Text) : (quotedName name).meaning = name := by
  rw [quotedName, Name.meaning, Name.text, nameOf, enclosed?_quoted (.inl rfl)]
  exact unescape_escape name

theorem ofText_quotedName (name : Text) :
    ofText (quotedName name).text = [(quotedName name).lexeme] :=
  (readsBefore_string (.inl rfl) (body_escape name)).ofText

theorem nameText_bare {name : Text} (h : needsQuotes name = false) : nameText name = name := by
  rw [nameText, if_neg (by simp [h])]

theorem identifier_of_bare {name : Text} (h : needsQuotes name = false) {written : Name}
    (hw : ofText name = [written.lexeme]) : ofText name = [literal .identifier name] := by
  cases written with
  | bare text =>
    have ht : ofText name = [literal .identifier text] := hw
    obtain ⟨before, after, rfl, hbefore, hafter, -⟩ := exists_literal ht
    obtain ⟨rfl, rfl⟩ := bare_eq_inner h hbefore hafter
    simpa using ht
  | quoted text =>
    have ht : ofText name = [literal .string text] := hw
    obtain ⟨before, after, rfl, -, -, hs⟩ := exists_literal ht
    cases hs with
    | string hq hb => exact absurd hq (bare_char h _ (by simp)).2
    | word hc hm ho => simpa using (ofWord_literal ho).2

theorem nameable_bare_iff {name : Text} (h : needsQuotes name = false) :
    Nameable name ↔ ofText name = [literal .identifier name] := by
  constructor
  · rintro ⟨written, hr, -⟩
    rw [nameText_bare h] at hr
    exact identifier_of_bare h hr.ofText
  · exact nameable_identifier

/-- Every text is a name, that of a quoted text. One with a blank or a quote and without a backslash
is printed between quotes and read again as one name that means it, before a comma, a blank and the
end of the text. One without blanks and quotes is printed as it is, and it is read again exactly if
it is one identifier. -/
theorem printed_names_read_back :
    (∀ name : Text, ∃ (source : Text) (written : Name),
      ofText source = [written.lexeme] ∧ written.meaning = name) ∧
    (∀ name : Text, needsQuotes name = true → '\\' ∉ name → Nameable name) ∧
    ∀ name : Text, needsQuotes name = false →
      (Nameable name ↔ ofText name = [literal .identifier name]) :=
  ⟨fun name => ⟨_, _, ofText_quotedName name, quotedName_meaning name⟩,
    fun _ h hb => nameable_quoted h hb, fun _ h => nameable_bare_iff h⟩

theorem printed_names_read_back_spaced :
    Nameable "Billing City".toList ∧
      (Nameable "limit".toList ↔ ofText "limit".toList = [literal .identifier "limit".toList]) := by
  obtain ⟨-, hquoted, hbare⟩ := printed_names_read_back
  exact ⟨hquoted _ (by decide +kernel) (by decide +kernel), hbare _ (by decide +kernel)⟩

/-- The name `from` comes from a quoted text, and is printed as the keyword of a clause. -/
theorem keyword_name_is_lost :
    (∃ written : Name, written.lexeme ∈ ofText "SELECT 'from' FROM t".toList ∧
      written.meaning = "from".toList) ∧
    ofText (nameText "from".toList) = [.clause .source] ∧ ¬Nameable "from".toList := by
  have hp : ofText (nameText "from".toList) = [.clause .source] := by decide +kernel
  refine ⟨⟨.quoted "'from'".toList, by decide +kernel, by decide +kernel⟩, hp, ?_⟩
  rintro ⟨written, hr, -⟩
  have hw := hr.ofText
  rw [hp] at hw
  cases written <;> cases hw

end EntityQuery.Canonical
