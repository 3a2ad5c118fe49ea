import EntityQuery.Canonical
import EntityQuery.Proofs.Lexeme.Literal
import EntityQuery.Proofs.Query.Meaning

/-! Names as they are printed. A name that is one identifier, or that has a blank or a quote but no
backslash in it, is printed as a name that means it. -/
namespace EntityQuery.Canonical
open Grammar Lexeme Text Unicode

/-- Whether the printed name is read as a name that means it. -/
def Nameable (name : Text) : Prop :=
  ∃ written : Name, ReadsBefore (nameText name) [written.lexeme] ∧ written.meaning = name

theorem blank_of_ofText_nil {text : Text} (h : ofText text = []) :
    ∀ c ∈ text, isBlank c = true := by
  induction text with
  | nil => simp
  | cons c rest ih =>
    cases hb : isBlank c with
    | true =>
      rw [ofText_blank hb] at h
      exact List.forall_mem_cons.mpr ⟨hb, ih h⟩
    | false => simp [ofText_next hb] at h

theorem eq_nil_of_blank {text : Text} (h : ∀ c ∈ text, isBlank c = true)
    (hn : ∀ c ∈ text, isBlank c = false) : text = [] := by
  cases text with
  | nil => rfl
  | cons c rest =>
    have hc := h c (by simp)
    rw [hn c (by simp)] at hc
    cases hc

theorem exists_literal {text inner : Text} {kind : LiteralKind}
    (h : ofText text = [literal kind inner]) :
    ∃ before after, text = before ++ inner ++ after ∧ (∀ c ∈ before, isBlank c = true) ∧
      (∀ c ∈ after, isBlank c = true) ∧ Spelled kind inner := by
  induction text with
  | nil => cases h
  | cons c rest ih =>
    cases hb : isBlank c with
    | true =>
      rw [ofText_blank hb] at h
      obtain ⟨before, after, rfl, hbefore, hafter, hs⟩ := ih h
      exact ⟨c :: before, after, rfl, List.forall_mem_cons.mpr ⟨hb, hbefore⟩, hafter, hs⟩
    | false =>
      rw [ofText_next hb, List.cons.injEq] at h
      obtain ⟨hs, ht⟩ := next_spelled h.1
      refine ⟨[], rest.drop (next c rest).2, ?_, by simp, blank_of_ofText_nil h.2, hs⟩
      rw [List.nil_append, ht, List.cons_append, List.take_append_drop]

theorem spelled_identifier {text : Text} (h : Spelled .identifier text) :
    ∃ c more, text = c :: more ∧ startsWord c = true ∧ ∀ d ∈ more, continuesWord d = true := by
  cases h with
  | word hc hm hw => exact ⟨_, _, rfl, hc, hm⟩

theorem nameText_quoted {name : Text} (h : needsQuotes name = true) :
    nameText name = '\'' :: doubled name ++ ['\''] := by
  rw [nameText, if_pos h]
  rfl

theorem nameable_quoted {name : Text} (h : needsQuotes name = true) (hb : '\\' ∉ name) :
    Nameable name := by
  refine ⟨.quoted ('\'' :: doubled name ++ ['\'']), ?_, nameOf_quoted hb⟩
  rw [nameText_quoted h]
  exact readsBefore_string (.inl rfl) (body_doubled hb)

theorem not_isQuote_of_startsWord {c : Char} (h : startsWord c = true) : ¬IsQuote c := by
  have hl := le_of_startsWord h
  rintro (rfl | rfl) <;> exact absurd hl (by decide)

theorem bare_char {name : Text} (h : needsQuotes name = false) :
    ∀ c ∈ name, isBlank c = false ∧ ¬IsQuote c := by
  intro c hc
  have hall := List.any_eq_false.mp h c hc
  simp only [Bool.or_eq_true, not_or, Bool.not_eq_true, decide_eq_true_eq] at hall
  exact ⟨hall.1.1, by rintro (rfl | rfl) <;> simp at hall⟩

theorem bare_eq_inner {before inner after : Text}
    (h : needsQuotes (before ++ inner ++ after) = false)
    (hbefore : ∀ c ∈ before, isBlank c = true) (hafter : ∀ c ∈ after, isBlank c = true) :
    before = [] ∧ after = [] := by
  have hn := bare_char h
  exact ⟨eq_nil_of_blank hbefore fun c hc => (hn c (by simp [hc])).1,
    eq_nil_of_blank hafter fun c hc => (hn c (by simp [hc])).1⟩

theorem nameable_identifier {name inner : Text} (h : ofText name = [literal .identifier inner]) :
    Nameable name := by
  obtain ⟨before, after, rfl, hbefore, hafter, hs⟩ := exists_literal h
  obtain ⟨c, more, rfl, hc, hm⟩ := spelled_identifier hs
  cases hq : needsQuotes (before ++ c :: more ++ after) with
  | true =>
    refine nameable_quoted hq fun hb => ?_
    rw [List.mem_append, List.mem_append, List.mem_cons] at hb
    rcases hb with (hb | rfl | hb) | hb
    · exact absurd (hbefore _ hb) (by decide)
    · exact absurd hc (by decide +kernel)
    · exact absurd (hm _ hb) (by decide +kernel)
    · exact absurd (hafter _ hb) (by decide)
  | false =>
    obtain ⟨rfl, rfl⟩ := bare_eq_inner hq hbefore hafter
    rw [List.nil_append, List.append_nil] at hq ⊢
    refine ⟨.bare (c :: more), ?_, ?_⟩
    · rw [nameText, if_neg (by simp [hq])]
      exact hs.reads
    · rw [Name.meaning, Name.text, nameOf, enclosed?_of_head (not_isQuote_of_startsWord hc)]

/-- The names that are promised to be read again: one identifier, or a name that needs quotes and
has no backslash. -/
def IsName (name : Text) : Prop :=
  (∃ inner, ofText name = [literal .identifier inner]) ∨ needsQuotes name = true ∧ '\\' ∉ name

theorem IsName.nameable {name : Text} (h : IsName name) : Nameable name := by
  rcases h with ⟨inner, h⟩ | ⟨h, hb⟩
  · exact nameable_identifier h
  · exact nameable_quoted h hb

def furtherText (names : List Text) : Text :=
  names.flatMap fun name => ',' :: nameText name

theorem ends_furtherText (names : List Text) : Ends (furtherText names) := by
  cases names with
  | nil => exact ends_nil
  | cons name rest => exact ends_cons.mpr rfl

theorem exists_further {names : List Text} (h : ∀ name ∈ names, Nameable name) :
    ∃ written : List Name, written.map Name.meaning = names ∧
      ReadsBefore (furtherText names) (written.flatMap fun name => [.comma, name.lexeme]) := by
  induction names with
  | nil => exact ⟨[], rfl, reads_nil.before⟩
  | cons name rest ih =>
    obtain ⟨⟨first, hf, hm⟩, hrest⟩ := List.forall_mem_cons.mp h
    obtain ⟨more, hms, hr⟩ := ih hrest
    refine ⟨first :: more, by rw [List.map_cons, hm, hms], ?_⟩
    have hc := reads_comma.append_before (hf.append (ends_furtherText rest) hr)
    simpa [furtherText] using hc

theorem intercalate_cons (first : Text) (rest : List Text) :
    List.intercalate [','] (first :: rest) = first ++ rest.flatMap fun text => ',' :: text := by
  induction rest generalizing first with
  | nil => simp [List.intercalate]
  | cons second rest ih =>
    have hi : List.intercalate [','] (first :: second :: rest) =
        first ++ [','] ++ List.intercalate [','] (second :: rest) := by
      simp [List.intercalate]
    rw [hi, ih]
    simp

theorem exists_names {fields : List Field} (hn : fields ≠ [])
    (h : ∀ field ∈ fields, Nameable field.name ∧ field = .named field.name) :
    ∃ names : Names, names.fields = fields ∧ ReadsBefore (namesText fields) names.lexemes := by
  cases fields with
  | nil => exact absurd rfl hn
  | cons field rest =>
    obtain ⟨⟨⟨first, hf, hm⟩, hfield⟩, hrest⟩ := List.forall_mem_cons.mp h
    have hnames : ∀ name ∈ rest.map Field.name, Nameable name := by
      intro name hmem
      obtain ⟨other, ho, rfl⟩ := List.mem_map.mp hmem
      exact (hrest other ho).1
    obtain ⟨more, hms, hr⟩ := exists_further hnames
    refine ⟨⟨first, more⟩, ?_, ?_⟩
    · have hall : more.map Name.field = rest := by
        have hcomp : more.map Name.field = (more.map Name.meaning).map Field.named := by
          rw [List.map_map]
          rfl
        rw [hcomp, hms, List.map_map]
        conv_rhs => rw [← List.map_id rest]
        exact List.map_congr_left fun other ho => (hrest other ho).2.symm
      rw [Names.fields, List.map_cons, hall, Name.field, hm, ← hfield]
    · have ht : namesText (field :: rest) =
          nameText field.name ++ furtherText (rest.map Field.name) := by
        rw [namesText, List.map_cons, intercalate_cons, furtherText, List.flatMap_map,
          List.flatMap_map]
      rw [ht]
      exact hf.append (ends_furtherText _) hr

end EntityQuery.Canonical
