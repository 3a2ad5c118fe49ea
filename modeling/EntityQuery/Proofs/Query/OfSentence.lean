import EntityQuery.Proofs.Query.Meaning

/-! The query of a sentence. A sentence whose row counts can be read gives the draft of what is
written in it, and no other sequence of tokens gives a query. -/
namespace EntityQuery

namespace Grammar

theorem addPart_name (draft : Draft) (name : Name) :
    draft.addPart name.tree = .ok { draft with fields := draft.fields ++ [name.field] } := by
  simp [Draft.addPart, name.tree_isName]

theorem foldlM_names (names : List Name) (draft : Draft) :
    (names.map Name.tree).foldlM Draft.addPart draft =
      .ok { draft with fields := draft.fields ++ names.map Name.field } := by
  induction names generalizing draft with
  | nil => simp [pure, Except.pure]
  | cons name rest ih =>
    rw [List.map_cons, List.foldlM_cons, addPart_name]
    simp only [bind, Except.bind, ih]
    simp

theorem Projection.foldlM_trees (projection : Projection) :
    projection.trees.foldlM Draft.addPart Draft.empty =
      .ok { Draft.empty with fields := projection.fields } := by
  cases projection with
  | all => rfl
  | names list => exact foldlM_names (list.first :: list.more) Draft.empty

theorem Projection.fields_ne_nil (projection : Projection) : projection.fields ≠ [] := by
  cases projection with
  | all => exact List.cons_ne_nil _ _
  | names list => exact List.cons_ne_nil _ _

theorem foldlM_parts {parts : List Part} (h : ∀ part ∈ parts, part.Countable) (draft : Draft) :
    (parts.map Part.tree).foldlM Draft.addPart draft = .ok (parts.foldl Part.add draft) := by
  induction parts generalizing draft with
  | nil => rfl
  | cons part rest ih =>
    obtain ⟨hp, hr⟩ := List.forall_mem_cons.mp h
    rw [List.map_cons, List.foldlM_cons, part.addPart_tree hp]
    exact ih hr (part.add draft)

theorem countable_of_foldlM {parts : List Part} {draft whole : Draft}
    (h : (parts.map Part.tree).foldlM Draft.addPart draft = .ok whole) :
    ∀ part ∈ parts, part.Countable := by
  induction parts generalizing draft with
  | nil => simp
  | cons part rest ih =>
    rw [List.map_cons, List.foldlM_cons] at h
    cases hp : draft.addPart part.tree with
    | error e =>
      rw [hp] at h
      cases h
    | ok next =>
      rw [hp] at h
      exact List.forall_mem_cons.mpr ⟨Part.countable_of_addPart hp, ih h⟩

theorem Sentence.foldl_parts (s : Sentence) :
    s.parts.foldl Part.add { Draft.empty with fields := s.projection.fields } = s.draft := by
  obtain ⟨projection, source, filter, ordering, limit, offset⟩ := s
  cases source <;> cases filter <;> cases ordering <;> cases limit <;> cases offset <;>
    simp [parts, Part.add, draft, order, direction, Draft.empty]

theorem Sentence.ofTree_eq (s : Sentence) :
    Draft.ofTree s.tree = (s.parts.map Part.tree).foldlM Draft.addPart
      { Draft.empty with fields := s.projection.fields } := by
  change s.trees.foldlM Draft.addPart Draft.empty = _
  rw [trees, List.foldlM_append, s.projection.foldlM_trees]
  rfl

theorem Sentence.ofTree_tree {s : Sentence} (h : s.Countable) :
    Draft.ofTree s.tree = .ok s.draft := by
  rw [s.ofTree_eq, foldlM_parts (countable_parts.mpr h), s.foldl_parts]

theorem Sentence.countable_of_ofTree {s : Sentence} {draft : Draft}
    (h : Draft.ofTree s.tree = .ok draft) : s.Countable := by
  rw [s.ofTree_eq] at h
  exact countable_parts.mp (countable_of_foldlM h)

theorem Sentence.build_draft {s : Sentence} {name : Name} (h : s.source = some name) :
    s.draft.build = .ok ⟨s.projection.fields, s.projection.fields_ne_nil, name.meaning,
      s.filter.map Phrase.expression, s.order, s.direction, s.limit.bind Text.rowCount?,
      s.offset.bind Text.rowCount?⟩ := by
  simp [draft, Draft.build, h, s.projection.fields_ne_nil]

theorem Sentence.exists_source {s : Sentence} {q : Query} (h : s.draft.build = .ok q) :
    ∃ name, s.source = some name ∧ q = ⟨s.projection.fields, s.projection.fields_ne_nil,
      name.meaning, s.filter.map Phrase.expression, s.order, s.direction,
      s.limit.bind Text.rowCount?, s.offset.bind Text.rowCount?⟩ := by
  cases hs : s.source with
  | some name => exact ⟨name, rfl, Except.ok.inj (h.symm.trans (build_draft hs))⟩
  | none => simp [draft, Draft.build, hs, s.projection.fields_ne_nil] at h

end Grammar

namespace Query
open Grammar

theorem ofTokens_sentence {tokens : List Token} {s : Sentence}
    (h : s.lexemes = tokens.map Token.lexeme) :
    (ofTree (Tree.ofTokens tokens)).mapError (CompileError.map fun _ => (default : Span)) =
      ofParts s.tree := by
  rw [← ofTree_map]
  change ofTree (Tree.ofTokens tokens).unplaced = _
  rw [Tree.ofTokens_unplaced, ← h, s.read, ofTree, s.tree_marker]

/-- A sentence whose row counts can be read gives the query of its draft. -/
theorem ofTokens_draft {tokens : List Token} {s : Sentence} {q : Query}
    (h : s.lexemes = tokens.map Token.lexeme) (hc : s.Countable) (hq : s.draft.build = .ok q) :
    ofTree (Tree.ofTokens tokens) = .ok q := by
  have hs := ofTokens_sentence h
  rw [ofParts, Sentence.ofTree_tree hc] at hs
  simp only [Except.bind, hq, Except.mapError] at hs
  cases ho : ofTree (Tree.ofTokens tokens) with
  | error e => simp [ho] at hs
  | ok found => simpa [ho] using hs

theorem exists_sentence {tokens : List Token} {q : Query}
    (h : ofTree (Tree.ofTokens tokens) = .ok q) :
    ∃ s : Sentence, s.lexemes = tokens.map Token.lexeme ∧ s.Countable ∧
      s.draft.build = .ok q := by
  have hm : (Tree.ofTokens tokens).firstMarker? = none := by
    cases hf : (Tree.ofTokens tokens).firstMarker? with
    | none => rfl
    | some marker => simp [ofTree, hf] at h
  obtain ⟨s, hl⟩ := Tree.exists_sentence ((Tree.ofTokens_marker tokens).mp hm)
  have hs := ofTokens_sentence hl
  rw [h, ofParts] at hs
  cases hd : Draft.ofTree s.tree with
  | error e => simp [hd, Except.mapError, Except.bind] at hs
  | ok draft =>
    have hc := Sentence.countable_of_ofTree hd
    obtain rfl : s.draft = draft := Except.ok.inj ((Sentence.ofTree_tree hc).symm.trans hd)
    refine ⟨s, hl, hc, ?_⟩
    cases hb : s.draft.build with
    | error e => simp [hd, hb, Except.mapError, Except.bind] at hs
    | ok built => simpa [hd, hb, Except.mapError, Except.bind, eq_comm] using hs

end Query
end EntityQuery
