import EntityQuery.Proofs.Grammar

/-! The clauses of a sentence in its lexemes. A clause keyword stands only where a clause begins,
and the integers of the paging clauses stand right after their keywords. -/
namespace EntityQuery

namespace Lexeme

def countAfter? : Lexeme → List Lexeme → Option Text
  | clause .limit, literal .integer text :: _ => some text
  | clause .offset, literal .integer text :: _ => some text
  | _, _ => none

def rowCounts : List Lexeme → List Text
  | [] => []
  | keyword :: rest => (countAfter? keyword rest).toList ++ rowCounts rest

def NoClause (lexemes : List Lexeme) : Prop :=
  ∀ lexeme ∈ lexemes, lexeme.isClause = false

theorem NoClause.append {before after : List Lexeme} (hb : NoClause before)
    (ha : NoClause after) : NoClause (before ++ after) :=
  List.forall_mem_append.mpr ⟨hb, ha⟩

theorem noClause_nil : NoClause [] := by
  simp [NoClause]

theorem noClause_cons {lexeme : Lexeme} {rest : List Lexeme} :
    NoClause (lexeme :: rest) ↔ lexeme.isClause = false ∧ NoClause rest :=
  List.forall_mem_cons

theorem countAfter?_of_not_clause {lexeme : Lexeme} (h : lexeme.isClause = false)
    (rest : List Lexeme) : countAfter? lexeme rest = none := by
  cases lexeme with
  | clause clause => cases h
  | _ => rfl

theorem rowCounts_append {before : List Lexeme} (h : NoClause before) (after : List Lexeme) :
    rowCounts (before ++ after) = rowCounts after := by
  induction before with
  | nil => rfl
  | cons lexeme rest ih =>
    obtain ⟨hl, hr⟩ := noClause_cons.mp h
    rw [List.cons_append, rowCounts, countAfter?_of_not_clause hl, ih hr]
    rfl

theorem clause_not_mem {lexemes : List Lexeme} (h : NoClause lexemes) (c : Clause) :
    clause c ∉ lexemes :=
  fun hm => absurd (h _ hm) (by simp [isClause])

end Lexeme

namespace Grammar
open Lexeme

theorem Name.not_clause (name : Name) : name.lexeme.isClause = false := by
  cases name <;> rfl

theorem Literal.not_clause (literal : Literal) : literal.lexeme.isClause = false := by
  cases literal <;> rfl

theorem Phrase.noClause {b : Binding} (w : Phrase b) : NoClause w.lexemes := by
  induction w with
  | comparison c =>
    exact noClause_cons.mpr ⟨c.field.not_clause, noClause_cons.mpr ⟨rfl,
      noClause_cons.mpr ⟨c.value.not_clause, noClause_nil⟩⟩⟩
  | group inner ih =>
    exact (noClause_cons.mpr ⟨rfl, ih⟩).append (noClause_cons.mpr ⟨rfl, noClause_nil⟩)
  | not operand ih => exact noClause_cons.mpr ⟨rfl, ih⟩
  | conjunct operand ih => exact ih
  | and left right ihl ihr => exact ihl.append (noClause_cons.mpr ⟨rfl, ihr⟩)
  | alternative conjunction ih => exact ih
  | or left right ihl ihr => exact ihl.append (noClause_cons.mpr ⟨rfl, ihr⟩)

theorem Names.noClause (names : Names) : NoClause names.lexemes := by
  refine noClause_cons.mpr ⟨names.first.not_clause, fun lexeme h => ?_⟩
  obtain ⟨name, -, hm⟩ := List.mem_flatMap.mp h
  simp only [List.mem_cons, List.not_mem_nil, or_false] at hm
  rcases hm with rfl | rfl
  · rfl
  · exact name.not_clause

theorem Projection.noClause (projection : Projection) : NoClause projection.lexemes := by
  cases projection with
  | all => exact noClause_cons.mpr ⟨rfl, noClause_nil⟩
  | names list => exact list.noClause

theorem Projection.noClause_select (projection : Projection) :
    NoClause (.select :: projection.lexemes) :=
  noClause_cons.mpr ⟨rfl, projection.noClause⟩

theorem Ordering.noClause (ordering : Ordering) : NoClause ordering.lexemes := by
  refine ordering.names.noClause.append ?_
  cases ordering.direction with
  | none => exact noClause_nil
  | some direction => exact noClause_cons.mpr ⟨rfl, noClause_nil⟩

theorem Part.exists_noClause (part : Part) :
    ∃ rest, part.lexemes = .clause part.clause :: rest ∧ NoClause rest := by
  cases part with
  | source entity => exact ⟨_, rfl, noClause_cons.mpr ⟨entity.not_clause, noClause_nil⟩⟩
  | filter condition => exact ⟨_, rfl, condition.noClause⟩
  | ordering list => exact ⟨_, rfl, noClause_cons.mpr ⟨rfl, list.noClause⟩⟩
  | limit count => exact ⟨_, rfl, noClause_cons.mpr ⟨rfl, noClause_nil⟩⟩
  | offset count => exact ⟨_, rfl, noClause_cons.mpr ⟨rfl, noClause_nil⟩⟩

def Part.count? : Part → Option Text
  | limit count => some count
  | offset count => some count
  | _ => none

theorem Part.rowCounts_append (part : Part) (after : List Lexeme) :
    rowCounts (part.lexemes ++ after) = part.count?.toList ++ rowCounts after := by
  obtain ⟨rest, hl, hr⟩ := part.exists_noClause
  rw [hl, List.cons_append, rowCounts, Lexeme.rowCounts_append hr]
  congr 2
  cases part with
  | source entity => rfl
  | filter condition => rfl
  | ordering list => rfl
  | limit count =>
    obtain ⟨-, rfl⟩ := List.cons.inj hl
    rfl
  | offset count =>
    obtain ⟨-, rfl⟩ := List.cons.inj hl
    rfl

theorem rowCounts_parts (parts : List Part) :
    rowCounts (parts.flatMap Part.lexemes) = parts.filterMap Part.count? := by
  induction parts with
  | nil => rfl
  | cons part rest ih =>
    rw [List.flatMap_cons, part.rowCounts_append, ih]
    cases h : part.count? <;> simp [h]

theorem Sentence.rowCounts_lexemes (s : Sentence) :
    rowCounts s.lexemes = s.parts.filterMap Part.count? := by
  rw [lexemes, Lexeme.rowCounts_append s.projection.noClause_select, rowCounts_parts]

theorem Sentence.clause_mem (s : Sentence) (c : Clause) :
    .clause c ∈ s.lexemes ↔ ∃ part ∈ s.parts, part.clause = c := by
  have hc (part : Part) : .clause c ∈ part.lexemes ↔ part.clause = c := by
    obtain ⟨rest, hl, hr⟩ := part.exists_noClause
    simp [hl, clause_not_mem hr, eq_comm]
  rw [lexemes, List.mem_append, List.mem_flatMap]
  simp [clause_not_mem s.projection.noClause_select, hc]

theorem Sentence.source_mem (s : Sentence) :
    .clause .source ∈ s.lexemes ↔ s.source.isSome := by
  rw [s.clause_mem]
  obtain ⟨projection, source, filter, ordering, limit, offset⟩ := s
  cases source with
  | some entity => simp [parts, Part.clause]
  | none =>
    simp only [parts, List.mem_append, Option.mem_toList, Option.map_eq_some_iff, Option.map_none]
    constructor
    · rintro ⟨part, (((h | ⟨a, -, rfl⟩) | ⟨a, -, rfl⟩) | ⟨a, -, rfl⟩) | ⟨a, -, rfl⟩, hc⟩
      · cases h
      all_goals cases hc
    · intro h
      cases h

end Grammar
end EntityQuery
