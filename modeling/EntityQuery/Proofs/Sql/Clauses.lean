import Mathlib.Data.List.Forall2
import EntityQuery.Proofs.Emission.Reset
import EntityQuery.Proofs.Query.OfSentence
import EntityQuery.Proofs.Sql.Filter
import EntityQuery.Proofs.Sql.Refusal

/-! The clauses of a statement besides its filter. The columns are those of the projection, and the
paging is what the query says of its rows, on every dialect and for all tables. Two names are not
told apart: a quoted `*` selects all columns as well. And no paging is refused, also not an offset
without a limit, which only one of the dialects can read. -/
namespace EntityQuery

def Event.columns : Event → List Sql.Column
  | .fields list => list.map .ofField
  | _ => []

theorem Expression.events_columns (e : Expression) : e.events.flatMap Event.columns = [] := by
  induction e with
  | comparison op field value => rfl
  | and left right ihl ihr => simp [events, Event.columns, ihl, ihr]
  | or left right ihl ihr => simp [events, Event.columns, ihl, ihr]
  | not operand ih =>
    obtain ⟨op, field, value, rfl⟩ | he := operand.events_not
    · rfl
    · rw [he]
      exact ih

theorem Query.events_columns (query : Query) : ∃ rest,
    query.events = .fields query.fields :: rest ∧ ∀ event ∈ rest, event.columns = [] := by
  refine ⟨query.events.tail, rfl, ?_⟩
  have hg := query.flatMap_events Event.columns (fun _ _ => rfl) (fun _ => rfl) fun _ => rfl
  have hf : (query.filter.elim [] fun filter =>
      Event.filter.columns ++ filter.events.flatMap Event.columns) = [] := by
    cases query.filter with
    | none => rfl
    | some filter => exact filter.events_columns
  rw [hf, List.append_nil] at hg
  rw [← List.flatMap_eq_nil_iff]
  exact List.append_cancel_left hg

def Query.unpaged (query : Query) : Query :=
  { query with limit := none, offset := none }

namespace Sql

section Columns
variable (a : Assembly)

/-- The filter waits in the groups; only the fields of a query are columns. -/
theorem call_columns (event : Event) :
    (translator.call event a).2.statement.columns = a.statement.columns ++ event.columns := by
  rw [translator, Event.columns.eq_def]
  cases event with
  | fields fields => rfl
  | comparison op field value =>
    cases hc : Condition.ofComparison op field.name value <;> simp [Assembly.call, hc]
  | endGroup => simp [Assembly.call]
  | and | or =>
    simp only [Assembly.call, Assembly.connect, List.append_nil]
    cases a.groups <;> rfl
  | _ => exact (List.append_nil _).symm

theorem columns_run (query : Query) :
    (translator.run query.events a).2.statement.columns =
      a.statement.columns ++ query.fields.map .ofField := by
  obtain ⟨rest, he, hr⟩ := query.events_columns
  have hf : translator.call (.fields query.fields) a = (.ok (), a.edit fun s =>
      { s with columns := s.columns ++ query.fields.map .ofField }) := rfl
  have hk : ∀ event ∈ rest, ∀ b : Assembly,
      (translator.call event b).2.statement.columns = b.statement.columns := by
    intro event hm b
    rw [call_columns, hr event hm, List.append_nil]
  rw [he, translator.run_cons_ok hf, translator.run_keeps (fun b => b.statement.columns) hk]
  rfl

/-- How a name of the projection stands in a statement: as the column that it names. Only a quoted
`*` is not told apart from the star. -/
inductive Shows : Grammar.Name → Column → Prop where
  | bare (text : Text) : Shows (.bare text) (.named text)
  | quoted {text : Text} (h : Text.nameOf text ≠ ['*']) :
    Shows (.quoted text) (.named (Text.nameOf text))
  | star {text : Text} (h : Text.nameOf text = ['*']) : Shows (.quoted text) .all

inductive Projects : Grammar.Projection → List Column → Prop where
  | all : Projects .all [.all]
  | names {list : Grammar.Names} {columns : List Column}
      (h : List.Forall₂ Shows (list.first :: list.more) columns) : Projects (.names list) columns

theorem ofField_name (name : Grammar.Name) : Column.ofField name.field =
    if name.meaning = ['*'] then .all else .named name.meaning := by
  unfold Column.ofField
  by_cases hs : name.meaning = ['*']
  · have hw : name.field.isWildcard = true := decide_eq_true hs
    rw [if_pos hw, if_pos hs]
  · have hw : ¬name.field.isWildcard = true := fun h => hs (of_decide_eq_true h)
    rw [if_neg hw, if_neg hs]
    rfl

theorem meaning_identifier {text : Text} (h : Lexeme.Spelled .identifier text) :
    (Grammar.Name.bare text).meaning = text ∧ text ≠ ['*'] := by
  obtain ⟨c, more, rfl, hc, -⟩ := Canonical.spelled_identifier h
  refine ⟨?_, ?_⟩
  · rw [Grammar.Name.meaning, Grammar.Name.text, Text.nameOf,
      Text.enclosed?_of_head (Canonical.not_isQuote_of_startsWord hc)]
  · intro hs
    obtain ⟨rfl, -⟩ := List.cons.inj hs
    exact absurd (Lexeme.le_of_startsWord hc) (by decide)

theorem shows_name {name : Grammar.Name} {source : Text} (h : name.lexeme ∈ Lexeme.ofText source) :
    Shows name (.ofField name.field) := by
  cases name with
  | bare text =>
    obtain ⟨hm, hs⟩ := meaning_identifier (Lexeme.spelled_of_mem h)
    rw [ofField_name, hm, if_neg hs]
    exact .bare text
  | quoted text =>
    have hm : (Grammar.Name.quoted text).meaning = Text.nameOf text := rfl
    by_cases hs : Text.nameOf text = ['*']
    · rw [ofField_name, hm, if_pos hs]
      exact .star hs
    · rw [ofField_name, hm, if_neg hs]
      exact .quoted hs

theorem projects_fields {projection : Grammar.Projection} {source : Text}
    (h : projection.lexemes ⊆ Lexeme.ofText source) :
    Projects projection (projection.fields.map .ofField) := by
  cases projection with
  | all => exact .all
  | names list =>
    refine .names ?_
    rw [Grammar.Projection.fields, Grammar.Names.fields, List.map_map, List.forall₂_map_right_iff]
    refine List.forall₂_same.mpr fun name hm => shows_name (h ?_)
    rcases List.mem_cons.mp hm with rfl | hm
    · exact List.mem_cons_self
    · exact List.mem_cons_of_mem _ (List.mem_flatMap.mpr ⟨name, hm, by simp⟩)

theorem render_columns (dialect : Dialect) (s : Statement) : ∃ rest, s.render dialect =
    "SELECT ".toList ++ List.intercalate ", ".toList (s.columns.map (Column.render dialect)) ++
      rest := by
  have front (a b c d e : Text) : ∃ rest, a ++ b ++ c ++ d ++ e = a ++ rest :=
    ⟨b ++ (c ++ (d ++ e)), by simp only [List.append_assoc]⟩
  exact front _ _ _ _ s.paging

end Columns

section Statements
variable {dialect : Dialect} {tables : List (Text × Text)} {query : Query}

theorem exists_condition {text : Text} (h : query.sql dialect tables = .ok text) :
    ∃ condition, Condition.ofFilter query.filter = .ok condition := by
  cases hq : query.filter with
  | none => exact ⟨none, rfl⟩
  | some e =>
    have he : Expressible e := by
      intro op field value hm
      cases hc : Condition.ofComparison op field.name value with
      | ok c => exact ⟨c, rfl⟩
      | error refusal =>
        have hm : (op, field, value) ∈ query.comparisons := by
          rw [Query.comparisons, hq]
          exact hm
        obtain ⟨first, hr⟩ := exists_firstRefused.mpr ⟨_, _, _, _, hm, refused_of_error hc⟩
        have ht := (translate_error_iff query (.start dialect tables) first).mpr hr
        rw [← Query.sql, h] at ht
        cases ht
    obtain ⟨c, hc⟩ := he.exists_condition
    exact ⟨some c, by rw [Condition.ofFilter, hc]; rfl⟩

theorem sql_eq {condition : Option Condition} (h : Condition.ofFilter query.filter = .ok condition)
    (dialect : Dialect) (tables : List (Text × Text)) : query.sql dialect tables =
      .ok (Statement.render dialect { Statement.empty.extend query
        ((Assembly.start dialect tables).table query.source) with filter := condition }) := by
  rw [Query.sql, Translator.translate, run_query h]
  cases condition <;> rfl

end Statements

/-- The columns of a statement are those of the projection, one for each name and in the same order,
whatever the dialect and the tables are and whether or not the filter is refused; and the text of
the statement begins with them. A name is the quoted column of its plain text, only that a quoted
`*` selects all columns, as the star does. -/
theorem columns_follow_projection (source : Text) (query : Query)
    (h : Query.ofText source = .ok query) :
    ∃ s : Grammar.Sentence, s.lexemes = Lexeme.ofText source ∧
      ∀ dialect tables, ∃ columns,
        (translator.run query.events (.start dialect tables)).2.statement.columns = columns ∧
        Projects s.projection columns ∧
        ∀ text, query.sql dialect tables = .ok text → ∃ rest, text = "SELECT ".toList ++
          List.intercalate ", ".toList (columns.map (Column.render dialect)) ++ rest := by
  obtain ⟨s, hl, -, hb⟩ := Query.exists_sentence h
  obtain ⟨name, -, hq⟩ := Grammar.Sentence.exists_source hb
  have hf : query.fields = s.projection.fields := by rw [hq]
  refine ⟨s, hl, fun dialect tables => ⟨_, columns_run _ query, ?_, ?_⟩⟩
  · rw [hf]
    apply projects_fields
    intro lexeme hm
    have hs : lexeme ∈ s.lexemes := List.mem_append_left _ (List.mem_cons_of_mem _ hm)
    rwa [hl] at hs
  · intro text ht
    obtain ⟨condition, hc⟩ := exists_condition ht
    rw [sql_eq hc, Except.ok.injEq] at ht
    rw [← ht]
    exact render_columns dialect _

theorem columns_follow_projection_quoted : ∃ query,
    Query.ofText "SELECT name, 'a b', '*' FROM t".toList = .ok query ∧
    ∃ s : Grammar.Sentence, s.lexemes = Lexeme.ofText "SELECT name, 'a b', '*' FROM t".toList ∧
      Projects s.projection [.named "name".toList, .named "a b".toList, .all] := by
  let fields : List Field := [.named "name".toList, .named "a b".toList, .named ['*']]
  have hq : Query.ofText "SELECT name, 'a b', '*' FROM t".toList =
      .ok ⟨fields, by simp [fields], ['t'], none, [], none, none, none⟩ := by
    decide +kernel
  obtain ⟨s, hl, hc⟩ := columns_follow_projection _ _ hq
  obtain ⟨columns, hr, hp, -⟩ := hc .postgres []
  obtain rfl : [.named "name".toList, .named "a b".toList, .all] = columns := by
    rw [← hr, columns_run]
    decide +kernel
  exact ⟨_, hq, s, hl, hp⟩

/-- The name is quoted, so it is no star, and yet all columns are selected. -/
theorem quoted_star_selects_all :
    Lexeme.ofText "SELECT '*' FROM t".toList =
      [.select, .literal .string "'*'".toList, .clause .source, .literal .identifier ['t']] ∧
    ∃ query, Query.ofText "SELECT '*' FROM t".toList = .ok query ∧
      ∀ dialect tables,
        (translator.run query.events (.start dialect tables)).2.statement.columns = [.all] ∧
        [Column.all] ≠ [.named (Text.nameOf "'*'".toList)] := by
  refine ⟨by decide +kernel, ⟨[.named ['*']], by simp, ['t'], none, [], none, none, none⟩,
    by decide +kernel, fun dialect tables => ⟨?_, by simp⟩⟩
  rw [columns_run]
  rfl

/-- The ends of a statement that a dialect can read as its paging. Only one dialect has an offset
without a limit. -/
inductive Paging : Dialect → Text → Prop where
  | none (dialect : Dialect) : Paging dialect []
  | limit (dialect : Dialect) (n : Nat) : Paging dialect (" LIMIT ".toList ++ Text.ofNat n)
  | both (dialect : Dialect) (n m : Nat) :
    Paging dialect (" LIMIT ".toList ++ Text.ofNat n ++ (" OFFSET ".toList ++ Text.ofNat m))
  | offset (m : Nat) : Paging .postgres (" OFFSET ".toList ++ Text.ofNat m)

theorem Paging.eq_postgres {dialect : Dialect} {m : Nat}
    (h : Paging dialect (" OFFSET ".toList ++ Text.ofNat m)) : dialect = .postgres := by
  generalize ht : " OFFSET ".toList ++ Text.ofNat m = text at h
  cases h with
  | none => simp at ht
  | limit n => simp at ht
  | both n k => simp at ht
  | offset k => rfl

theorem paging_iff (dialect : Dialect) (s : Statement) :
    Paging dialect s.paging ↔ dialect = .postgres ∨ s.limit.isSome ∨ s.offset = none := by
  unfold Statement.paging
  cases hl : s.limit with
  | some n =>
    have hp : Paging dialect (" LIMIT ".toList ++ Text.ofNat n ++
        s.offset.elim [] fun m => " OFFSET ".toList ++ Text.ofNat m) := by
      cases s.offset with
      | none => simpa using Paging.limit dialect n
      | some m => exact .both dialect n m
    exact iff_of_true hp (.inr (.inl rfl))
  | none =>
    cases hx : s.offset with
    | none => exact iff_of_true (.none dialect) (.inr (.inr rfl))
    | some m =>
      constructor
      · intro h
        exact .inl (Paging.eq_postgres h)
      · rintro (rfl | h | h)
        · exact .offset m
        · cases h
        · cases h

theorem render_paging (dialect : Dialect) (s : Statement) : s.render dialect =
    Statement.render dialect { s with limit := none, offset := none } ++ s.paging := by
  have last (a b : Text) : a ++ b = a ++ [] ++ b := by rw [List.append_nil]
  exact last _ s.paging

/-- No paging is refused: a query fails as it does without any, and otherwise what it says of its
rows is put at the end. On the dialects that know no offset alone this is no paging if an offset
comes without a limit, and only then. -/
theorem paging_unless_offset_alone (query : Query) (dialect : Dialect)
    (tables : List (Text × Text)) :
    (∀ e, query.sql dialect tables = .error e ↔ query.unpaged.sql dialect tables = .error e) ∧
    ∀ text, query.sql dialect tables = .ok text → ∃ body tail,
      query.unpaged.sql dialect tables = .ok body ∧ text = body ++ tail ∧
      (Paging dialect tail ↔ dialect = .postgres ∨ query.limit.isSome ∨ query.offset = none) := by
  constructor
  · intro e
    rw [Query.sql, Query.sql, translate_error_iff, translate_error_iff]
    rfl
  · intro text ht
    obtain ⟨condition, hc⟩ := exists_condition ht
    have hu : Condition.ofFilter query.unpaged.filter = .ok condition := hc
    rw [sql_eq hc, Except.ok.injEq, render_paging] at ht
    refine ⟨_, _, sql_eq hu dialect tables, ht.symm, ?_⟩
    rw [paging_iff]
    simp [Statement.extend, Statement.empty]

/-- An offset alone is put at the end for two dialects that do not know it. -/
theorem offset_alone_is_written : ∃ query,
    Query.ofText "SELECT a FROM t OFFSET 5".toList = .ok query ∧
    ∀ dialect ∈ [Dialect.mysql, .sqlite], ∃ body,
      query.unpaged.sql dialect [] = .ok body ∧
      query.sql dialect [] = .ok (body ++ " OFFSET 5".toList) ∧
      ¬Paging dialect " OFFSET 5".toList := by
  refine ⟨⟨[.named ['a']], by simp, ['t'], none, [], none, none, some 5⟩, by decide +kernel, ?_⟩
  have ho : " OFFSET 5".toList = " OFFSET ".toList ++ Text.ofNat 5 := by decide +kernel
  intro dialect hm
  have hd : dialect ≠ .postgres := by
    rintro rfl
    simp at hm
  have hp : ¬Paging dialect " OFFSET 5".toList := by
    rw [ho]
    exact fun h => hd h.eq_postgres
  refine ⟨_, sql_eq rfl dialect [], ?_, hp⟩
  rw [ho]
  cases dialect <;> rfl

end Sql
end EntityQuery
