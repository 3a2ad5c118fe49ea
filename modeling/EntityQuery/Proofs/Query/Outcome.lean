import EntityQuery.Proofs.Grammar.Clauses
import EntityQuery.Proofs.Grammar.Recovery
import EntityQuery.Proofs.Query.OfSentence
import EntityQuery.Proofs.Query.RowCount

/-! What the tree of a sequence of tokens gives: the error of its first error marker, the first row
count that is none, the lack of a source, or a query. A tree of tokens never lacks what only a tree
from elsewhere can lack. -/
namespace EntityQuery
open Grammar

namespace Grammar

theorem Part.countable_iff {part : Part} :
    part.Countable ↔ ∀ text, part.count? = some text → (Text.rowCount? text).isSome := by
  cases part <;> simp [Countable, count?]

theorem Part.addPart_uncountable {part : Part} {text : Text} (hc : part.count? = some text)
    (ht : Text.rowCount? text = none) (draft : Draft) :
    draft.addPart part.tree = .error (.invalidCount text) := by
  have hn (clause : Clause) :
      Draft.countOf clause [(.leaf (.literal .integer) text default : Tree)] =
        .error (.invalidCount text) := by
    rw [Text.rowCount?] at ht
    simp [Draft.countOf, ht]
  cases part with
  | limit count =>
    obtain rfl := Option.some.inj hc
    rw [addPart_limit, Part.children, hn]
    rfl
  | offset count =>
    obtain rfl := Option.some.inj hc
    rw [addPart_offset, Part.children, hn]
    rfl
  | _ => cases hc

theorem foldlM_uncountable {parts : List Part} {before after : List Text} {text : Text}
    (h : parts.filterMap Part.count? = before ++ text :: after)
    (hb : ∀ count ∈ before, (Text.rowCount? count).isSome) (ht : Text.rowCount? text = none)
    (draft : Draft) :
    (parts.map Part.tree).foldlM Draft.addPart draft = .error (.invalidCount text) := by
  induction parts generalizing before draft with
  | nil => simp at h
  | cons part rest ih =>
    rw [List.map_cons, List.foldlM_cons]
    cases hc : part.count? with
    | none =>
      rw [List.filterMap_cons_none hc] at h
      have hp : part.Countable := Part.countable_iff.mpr (by simp [hc])
      rw [part.addPart_tree hp]
      exact ih h hb (part.add draft)
    | some count =>
      rw [List.filterMap_cons_some hc] at h
      cases before with
      | nil =>
        obtain ⟨rfl, -⟩ := List.cons.inj h
        rw [part.addPart_uncountable hc ht]
        rfl
      | cons first others =>
        obtain ⟨rfl, hr⟩ := List.cons.inj h
        obtain ⟨hf, ho⟩ := List.forall_mem_cons.mp hb
        have hp : part.Countable := Part.countable_iff.mpr (by simpa [hc] using hf)
        rw [part.addPart_tree hp]
        exact ih hr ho (part.add draft)

theorem Sentence.countable_rowCounts {s : Sentence} :
    s.Countable ↔ ∀ text ∈ Lexeme.rowCounts s.lexemes, (Text.rowCount? text).isSome := by
  rw [← countable_parts, s.rowCounts_lexemes]
  simp only [Part.countable_iff, List.mem_filterMap]
  exact ⟨fun h text ⟨part, hp, hc⟩ => h part hp text hc,
    fun h part hp text hc => h text ⟨part, hp, hc⟩⟩

theorem Sentence.ofParts_uncountable {s : Sentence} {before after : List Text} {text : Text}
    (h : Lexeme.rowCounts s.lexemes = before ++ text :: after)
    (hb : ∀ count ∈ before, (Text.rowCount? count).isSome) (ht : Text.rowCount? text = none) :
    Query.ofParts s.tree = .error (.invalidCount text) := by
  rw [s.rowCounts_lexemes] at h
  rw [Query.ofParts, s.ofTree_eq, foldlM_uncountable h hb ht]
  rfl

theorem Sentence.ofParts_countable {s : Sentence} (h : s.Countable) :
    Query.ofParts s.tree = s.draft.build.mapError .incomplete := by
  rw [Query.ofParts, Sentence.ofTree_tree h]
  rfl

theorem Sentence.build_sourceless {s : Sentence} (h : s.source = none) :
    s.draft.build = .error .source := by
  simp [draft, Draft.build, h, s.projection.fields_ne_nil]

end Grammar

namespace Query

def Reportable {ρ : Type} : CompileError ρ → Prop
  | .unreadable _ _ => True
  | .malformed _ => False
  | .invalidCount _ => True
  | .incomplete part => part = .source

theorem reportable_map {ρ σ : Type} (f : ρ → σ) (e : CompileError ρ) :
    Reportable (e.map f) ↔ Reportable e := by
  cases e <;> rfl

/-- A piece is added to the query, unless it is an error marker or has no row count. -/
theorem Piece.addPart {node : Tree} (h : Piece node) (draft : Draft) :
    (node.kind ≠ .errorMarker ∧ ∃ next, draft.addPart node = .ok next) ∨
      ∃ e, draft.addPart node = .error e ∧ Reportable e := by
  cases h with
  | name name =>
    exact .inl ⟨by cases name <;> exact NodeKind.noConfusion, _, addPart_name draft name⟩
  | wildcard => exact .inl ⟨NodeKind.noConfusion, _, rfl⟩
  | part part =>
    by_cases hp : part.Countable
    · exact .inl ⟨NodeKind.noConfusion, _, part.addPart_tree hp draft⟩
    · simp only [Part.countable_iff, Classical.not_forall] at hp
      obtain ⟨text, hc, ht⟩ := hp
      exact .inr ⟨_, part.addPart_uncountable hc (by simpa using ht) draft, trivial⟩
  | marker fault => exact .inr ⟨_, rfl, trivial⟩

theorem foldlM_pieces {nodes : List Tree} (h : ∀ node ∈ nodes, Piece node) (draft : Draft) :
    ((∀ node ∈ nodes, node.kind ≠ .errorMarker) ∧
      ∃ whole, nodes.foldlM Draft.addPart draft = .ok whole) ∨
      ∃ e, nodes.foldlM Draft.addPart draft = .error e ∧ Reportable e := by
  induction nodes generalizing draft with
  | nil => exact .inl ⟨by simp, draft, rfl⟩
  | cons node rest ih =>
    obtain ⟨hn, hr⟩ := List.forall_mem_cons.mp h
    rw [List.foldlM_cons]
    rcases Piece.addPart hn draft with ⟨hk, next, ho⟩ | ⟨e, he, hp⟩
    · rw [ho]
      rcases ih hr next with ⟨hks, hw⟩ | hf
      · exact .inl ⟨List.forall_mem_cons.mpr ⟨hk, hks⟩, hw⟩
      · exact .inr hf
    · rw [he]
      exact .inr ⟨e, rfl, hp⟩

theorem reportable_ofLexemes {lexemes : List Lexeme} {e : CompileError Span}
    (h : ofParts (Tree.ofLexemes lexemes) = .error e) : Reportable e := by
  have hd : Draft.ofTree (Tree.ofLexemes lexemes) =
      (Tree.ofLexemes lexemes).children.foldlM Draft.addPart Draft.empty := rfl
  obtain ⟨hk, whole, hw⟩ | ⟨f, hf, hr⟩ :=
    foldlM_pieces (Tree.ofLexemes_pieces lexemes) Draft.empty
  · obtain ⟨s, rfl⟩ := Tree.exists_sentence (Tree.firstMarker?_of_children hk)
    rw [← hd, s.read] at hw
    rw [s.read, Sentence.ofParts_countable (Sentence.countable_of_ofTree hw)] at h
    cases hs : s.source with
    | none =>
      rw [Sentence.build_sourceless hs] at h
      obtain rfl := Except.error.inj h
      rfl
    | some name =>
      rw [Sentence.build_draft hs] at h
      cases h
  · rw [ofParts, hd, hf] at h
    obtain rfl := Except.error.inj h
    exact hr

theorem reportable_ofParts {tokens : List Token} {e : CompileError Span}
    (h : ofParts (Tree.ofTokens tokens) = .error e) : Reportable e := by
  have hu := ofParts_map (fun _ => (default : Span)) (Tree.ofTokens tokens)
  rw [h, ← Node.unplaced, Tree.ofTokens_unplaced] at hu
  exact (reportable_map _ e).mp (reportable_ofLexemes hu)

theorem reportable_ofTree {tokens : List Token} {e : CompileError Span}
    (h : ofTree (Tree.ofTokens tokens) = .error e) : Reportable e := by
  rw [ofTree] at h
  split at h
  · obtain rfl := Except.error.inj h
    trivial
  · exact reportable_ofParts h

inductive Outcome (tokens : List Token) : Except (CompileError Span) Query → Prop where
  | unreadable {marker : Tree} (hm : (Tree.ofTokens tokens).firstMarker? = some marker) :
    Outcome tokens (.error (.unreadable marker.text marker.place))
  | invalidCount (hm : (Tree.ofTokens tokens).firstMarker? = none) {before after : List Text}
      {text : Text}
      (hc : Lexeme.rowCounts (tokens.map Token.lexeme) = before ++ text :: after)
      (hb : ∀ count ∈ before, Text.IsRowCount count) (ht : ¬Text.IsRowCount text) :
    Outcome tokens (.error (.invalidCount text))
  | sourceless (hm : (Tree.ofTokens tokens).firstMarker? = none)
      (hc : ∀ count ∈ Lexeme.rowCounts (tokens.map Token.lexeme), Text.IsRowCount count)
      (hs : .clause .source ∉ tokens.map Token.lexeme) :
    Outcome tokens (.error (.incomplete .source))
  | query (hm : (Tree.ofTokens tokens).firstMarker? = none)
      (hc : ∀ count ∈ Lexeme.rowCounts (tokens.map Token.lexeme), Text.IsRowCount count)
      (hs : .clause .source ∈ tokens.map Token.lexeme) (q : Query) :
    Outcome tokens (.ok q)

theorem exists_uncountable {counts : List Text} (h : ¬∀ text ∈ counts, Text.IsRowCount text) :
    ∃ before text after, counts = before ++ text :: after ∧
      (∀ count ∈ before, Text.IsRowCount count) ∧ ¬Text.IsRowCount text := by
  induction counts with
  | nil => simp at h
  | cons count rest ih =>
    by_cases hc : Text.IsRowCount count
    · obtain ⟨before, text, after, rfl, hb, ht⟩ :=
        ih fun hr => h (List.forall_mem_cons.mpr ⟨hc, hr⟩)
      exact ⟨count :: before, text, after, rfl, List.forall_mem_cons.mpr ⟨hc, hb⟩, ht⟩
    · exact ⟨[], count, rest, rfl, by simp, hc⟩

theorem invalidCount_of_map {ρ σ : Type} {f : ρ → σ} {e : CompileError ρ} {text : Text}
    (h : e.map f = .invalidCount text) : e = .invalidCount text := by
  cases e <;> simp_all [CompileError.map]

theorem incomplete_of_map {ρ σ : Type} {f : ρ → σ} {e : CompileError ρ} {part : Incomplete}
    (h : e.map f = .incomplete part) : e = .incomplete part := by
  cases e <;> simp_all [CompileError.map]

theorem error_of_mapError {ε δ α : Type} {f : ε → δ} {result : Except ε α} {d : δ}
    (h : result.mapError f = .error d) : ∃ e, result = .error e ∧ f e = d := by
  cases result with
  | error e => exact ⟨e, rfl, Except.error.inj h⟩
  | ok a => cases h

theorem outcome_sentence {tokens : List Token} {s : Sentence}
    (h : s.lexemes = tokens.map Token.lexeme) : Outcome tokens (ofTree (Tree.ofTokens tokens)) := by
  have hm : (Tree.ofTokens tokens).firstMarker? = none := by
    rw [Tree.ofTokens_marker, ← h, s.read, s.tree_marker]
  have hs := ofTokens_sentence h
  by_cases hc : ∀ count ∈ Lexeme.rowCounts (tokens.map Token.lexeme), Text.IsRowCount count
  · have hcount : s.Countable := by
      rw [Sentence.countable_rowCounts, h]
      simpa only [Text.rowCount?_isSome] using hc
    cases hsource : s.source with
    | none =>
      rw [Sentence.ofParts_countable hcount, Sentence.build_sourceless hsource] at hs
      obtain ⟨e, he, hf⟩ := error_of_mapError hs
      rw [he, incomplete_of_map hf]
      exact .sourceless hm hc (by simp [← h, s.source_mem, hsource])
    | some name =>
      rw [ofTokens_draft h hcount (Sentence.build_draft hsource)]
      exact .query hm hc (by simp [← h, s.source_mem, hsource]) _
  · obtain ⟨before, text, after, hlist, hb, ht⟩ := exists_uncountable hc
    have hnone : Text.rowCount? text = none := by
      simpa [← Text.rowCount?_isSome] using ht
    rw [Sentence.ofParts_uncountable (by rw [h, hlist])
      (fun count hm => Text.rowCount?_isSome.mpr (hb count hm)) hnone] at hs
    obtain ⟨e, he, hf⟩ := error_of_mapError hs
    rw [he, invalidCount_of_map hf]
    exact .invalidCount hm hlist hb ht

theorem outcome_of_tokens (tokens : List Token) :
    Outcome tokens (ofTree (Tree.ofTokens tokens)) := by
  cases hm : (Tree.ofTokens tokens).firstMarker? with
  | some marker =>
    rw [ofTree, hm]
    exact .unreadable hm
  | none =>
    obtain ⟨s, hs⟩ := Tree.exists_sentence ((Tree.ofTokens_marker tokens).mp hm)
    exact outcome_sentence hs

/-- Reading and compiling fit together. The tree of any tokens gives the error of its first error
marker, or else that of its first row count that is none, or else that of a missing source, or else
a query; it is never malformed and never without fields, even if error markers are not looked for
first. The integers that are no row counts are those with a minus sign and those above 64 bits. -/
theorem reading_fits_compiling (tokens : List Token) :
    Outcome tokens (ofTree (Tree.ofTokens tokens)) ∧
    (∀ result ∈ [ofTree (Tree.ofTokens tokens), ofParts (Tree.ofTokens tokens)],
      (∀ malformation, result ≠ .error (.malformed malformation)) ∧
        result ≠ .error (.incomplete .fields)) ∧
    ∀ text, Lexeme.IsWhole text → (Text.IsRowCount text ↔
      text.head? ≠ some '-' ∧ Nat.ofDigitChars 10 text 0 ≤ 18446744073709551615) := by
  have hr : ∀ result ∈ [ofTree (Tree.ofTokens tokens), ofParts (Tree.ofTokens tokens)],
      ∀ e, result = .error e → Reportable e := by
    simp only [List.forall_mem_cons]
    exact ⟨fun e => reportable_ofTree, fun e => reportable_ofParts, by simp⟩
  refine ⟨outcome_of_tokens tokens, fun result hm => ⟨fun malformation he => ?_, fun he => ?_⟩,
    fun text => Text.isRowCount_whole⟩
  · exact hr result hm _ he
  · cases hr result hm _ he

end Query
end EntityQuery
