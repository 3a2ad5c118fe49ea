import EntityQuery.Proofs.Grammar.Prefix

/-! A sequence of tokens is read without a fault exactly when it is a sentence. A reading that has
met no fault has read the start of a sentence; an error marker stays. -/
namespace EntityQuery
open Grammar

namespace Grammar

def Sentence.Below (s : Sentence) (rank : Nat) : Prop :=
  ∀ part ∈ s.parts, part.clause.rank < rank

theorem none_of_below {α : Type} {written : α → Part} {rank : Nat} {o : Option α}
    (h : ∀ part ∈ (o.map written).toList, part.clause.rank < rank)
    (hr : ∀ a, rank ≤ (written a).clause.rank) : o = none := by
  cases o with
  | none => rfl
  | some a => exact absurd (h (written a) (by simp)) (Nat.not_lt.mpr (hr a))

theorem Sentence.Below.concat {s : Sentence} {part : Part} (h : s.Below part.clause.rank) :
    ∃ longer : Sentence, longer.projection = s.projection ∧
      longer.parts = s.parts ++ [part] := by
  obtain ⟨projection, source, filter, ordering, limit, offset⟩ := s
  simp only [Below, parts, List.forall_mem_append] at h
  obtain ⟨⟨⟨⟨hs, hf⟩, ho⟩, hl⟩, hx⟩ := h
  cases none_of_below hx fun a => by cases part <;> simp [Part.clause, Clause.rank]
  cases part with
  | offset count => exact ⟨⟨projection, source, filter, ordering, limit, some count⟩, rfl, by
      simp [parts]⟩
  | limit count =>
    cases none_of_below hl fun a => Nat.le_refl _
    exact ⟨⟨projection, source, filter, ordering, some count, none⟩, rfl, by simp [parts]⟩
  | ordering list =>
    cases none_of_below hl fun a => by simp [Part.clause, Clause.rank]
    cases none_of_below ho fun a => Nat.le_refl _
    exact ⟨⟨projection, source, filter, some list, none, none⟩, rfl, by simp [parts]⟩
  | filter condition =>
    cases none_of_below hl fun a => by simp [Part.clause, Clause.rank]
    cases none_of_below ho fun a => by simp [Part.clause, Clause.rank]
    cases none_of_below hf fun a => Nat.le_refl _
    exact ⟨⟨projection, source, some condition, none, none, none⟩, rfl, by simp [parts]⟩
  | source entity =>
    cases none_of_below hl fun a => by simp [Part.clause, Clause.rank]
    cases none_of_below ho fun a => by simp [Part.clause, Clause.rank]
    cases none_of_below hf fun a => by simp [Part.clause, Clause.rank]
    cases none_of_below hs fun a => Nat.le_refl _
    exact ⟨⟨projection, some entity, none, none, none, none⟩, rfl, by simp [parts]⟩

theorem Sentence.below_of_lt {s : Sentence} {rank higher : Nat} (h : s.Below rank)
    (hr : rank ≤ higher) : s.Below higher :=
  fun part hp => Nat.lt_of_lt_of_le (h part hp) hr

def Projection.sentence (projection : Projection) : Sentence :=
  ⟨projection, none, none, none, none, none⟩

theorem Projection.sentence_below (projection : Projection) (rank : Nat) :
    projection.sentence.Below rank := by
  simp [sentence, Sentence.Below, Sentence.parts]

end Grammar

namespace Tree.Reading

/-- What has been read without a fault, and the lexemes it was read from. -/
inductive Reads : Reading → List Lexeme → Prop where
  | nothing : Reads .start []
  | firstField : Reads ⟨[], 0, .projection⟩ [.select]
  | nextField (names : Names) :
    Reads ⟨[], 0, .name .projection names.trees⟩ (.select :: names.lexemes ++ [.comma])
  | fields {names : Names} {init : List Tree} {last : Name}
      (h : init ++ [last.tree] = names.trees) :
    Reads ⟨[], 0, .afterName .projection init last.tree⟩ (.select :: names.lexemes)
  | between {s : Sentence} {rank : Nat} (h : s.Below (rank + 1)) :
    Reads ⟨s.trees, rank, .between⟩ s.lexemes
  | within {s : Sentence} {clause : Clause} {stage : Stage} {lexemes : List Lexeme}
      (h : s.Below clause.rank) (hs : stage.Reads clause lexemes) :
    Reads ⟨s.trees, clause.rank, stage⟩ (s.lexemes ++ .clause clause :: lexemes)

def Marked (nodes : List Tree) : Prop :=
  ∃ node ∈ nodes, node.kind = .errorMarker

theorem extend {s : Sentence} {part : Part} (h : s.Below part.clause.rank) :
    ∃ longer : Sentence, longer.trees = s.trees ++ [part.tree] ∧
      longer.lexemes = s.lexemes ++ part.lexemes ∧ longer.Below (part.clause.rank + 1) := by
  obtain ⟨longer, hp, hl⟩ := h.concat
  refine ⟨longer, by simp [Sentence.trees, hp, hl], by simp [Sentence.lexemes, hp, hl], ?_⟩
  intro other ho
  rw [hl, List.mem_append, List.mem_singleton] at ho
  rcases ho with ho | rfl
  · exact Nat.lt_succ_of_lt (h other ho)
  · exact Nat.lt_succ_self _

theorem Reads.settle {reading : Reading} {lexemes : List Lexeme} {nodes : List Tree}
    (h : reading.Reads lexemes) (hf : reading.stage.finish = .ok nodes) :
    ∃ s : Sentence, s.trees = reading.children ++ nodes ∧ s.lexemes = lexemes ∧
      s.Below (reading.rank + 1) := by
  cases h with
  | @fields names init last h =>
    obtain rfl : init ++ [last.tree] = nodes := Except.ok.inj hf
    refine ⟨(Projection.names names).sentence, ?_, ?_, Projection.sentence_below _ _⟩ <;>
      simp [h, Projection.sentence, Sentence.trees, Sentence.lexemes, Sentence.parts,
        Projection.trees, Projection.lexemes]
  | @between s rank h =>
    obtain rfl : [] = nodes := Except.ok.inj hf
    exact ⟨s, by simp, rfl, h⟩
  | @within s clause stage lexemes h hs =>
    obtain ⟨part, rfl, rfl, hl⟩ := hs.finish hf
    obtain ⟨longer, ht, hx, hb⟩ := extend h
    exact ⟨longer, ht, by rw [hx, hl], hb⟩
  | _ => simp [start, Stage.finish] at hf

theorem Reads.accept {reading : Reading} {lexemes : List Lexeme} {lexeme : Lexeme}
    {nodes : List Tree} {stage : Stage} (h : reading.Reads lexemes)
    (ha : reading.stage.accept lexeme.token = some (nodes, stage)) :
    (reading.add nodes stage).Reads (lexemes ++ [lexeme]) := by
  have hr := Stage.accept_eq_some_iff.mp ha
  cases h with
  | nothing =>
    cases hr with
    | select hl =>
      obtain rfl : lexeme = .select := hl
      exact .firstField
  | firstField =>
    cases hr with
    | star hl =>
      obtain rfl : lexeme = .star := hl
      have hb : Projection.all.sentence.Below 1 := Projection.all.sentence_below 1
      exact .between hb
    | firstName hf =>
      obtain ⟨name, rfl, rfl⟩ := name?_eq_some hf
      have hn : [] ++ [name.tree] = (Names.mk name []).trees := rfl
      exact .fields hn
  | nextField names =>
    cases hr with
    | name hf =>
      obtain ⟨name, rfl, rfl⟩ := name?_eq_some hf
      obtain ⟨longer, hl, hx⟩ := names_concat names name
      simpa [add, hx] using Reads.fields hl.symm
  | @fields names init last h =>
    cases hr with
    | comma hl =>
      obtain rfl : lexeme = .comma := hl
      rw [h]
      exact .nextField names
  | between h => cases hr
  | @within s clause stage lexemes h hs =>
    rw [List.append_assoc, List.cons_append]
    rcases hr.reads hs with ⟨rfl, hn⟩ | ⟨part, rfl, rfl, rfl, hl⟩
    · simpa [add] using Reads.within h hn
    · obtain ⟨longer, ht, hx, hb⟩ := extend h
      rw [List.cons_append] at hl
      rw [← hl, ← hx, add]
      simp only [← ht]
      exact .between hb

theorem marked_marker (nodes : List Tree) (fault : Fault) (span : Span) :
    Marked (nodes ++ [marker fault span]) :=
  ⟨marker fault span, by simp, rfl⟩

theorem marked_fail (reading : Reading) (fault : Fault) (span : Span) :
    Marked (reading.fail fault span).children :=
  marked_marker reading.children fault span

def markers (faults : List Fault) (span : Span) : List Tree :=
  faults.map fun fault => marker fault span

theorem resume_adds (reading : Reading) (token : Token) :
    ∃ faults, (reading.resume token).children = reading.children ++ markers faults token.span := by
  unfold resume
  split
  · split
    · exact ⟨[_], rfl⟩
    · exact ⟨[], by simp [markers]⟩
  · exact ⟨[_], rfl⟩

def Completes (reading : Reading) (token : Token) (nodes : List Tree) : Prop :=
  nodes = [] ∨ reading.stage.finish = .ok nodes ∨
    ∃ stage, reading.stage.accept token = some (nodes, stage)

/-- A step adds complete nodes, and after them error markers at the token. -/
theorem step_adds (reading : Reading) (token : Token) :
    ∃ nodes faults, (reading.step token).children =
      reading.children ++ nodes ++ markers faults token.span ∧ reading.Completes token nodes := by
  unfold step
  cases ha : reading.stage.accept token with
  | some next => exact ⟨next.1, [], by simp [markers, add], .inr (.inr ⟨next.2, ha⟩)⟩
  | none =>
    cases hf : reading.stage.finish with
    | ok nodes =>
      obtain ⟨faults, hr⟩ := resume_adds (reading.add nodes .between) token
      exact ⟨nodes, faults, hr, .inr (.inl hf)⟩
    | error what =>
      obtain ⟨faults, hr⟩ := resume_adds
        (reading.fail (.unmet what token.lexeme) token.span) token
      by_cases hc : token.lexeme.isClause
      · refine ⟨[], .unmet what token.lexeme :: faults, ?_, .inl rfl⟩
        simp only [hc, if_true, hr]
        simp [fail, add, markers]
      · refine ⟨[], [.unmet what token.lexeme], ?_, .inl rfl⟩
        simp [hc, fail, add, markers]

theorem step_children (reading : Reading) (token : Token) :
    ∃ more, (reading.step token).children = reading.children ++ more := by
  obtain ⟨nodes, faults, hs, -⟩ := step_adds reading token
  exact ⟨nodes ++ markers faults token.span, by rw [hs, List.append_assoc]⟩

theorem Marked.append {nodes : List Tree} (h : Marked nodes) (more : List Tree) :
    Marked (nodes ++ more) := by
  obtain ⟨node, hn, hk⟩ := h
  exact ⟨node, List.mem_append_left _ hn, hk⟩

/-- A token leads on, or it leaves an error marker. -/
theorem Reads.step {reading : Reading} {lexemes : List Lexeme} (h : reading.Reads lexemes)
    (lexeme : Lexeme) :
    (reading.step lexeme.token).Reads (lexemes ++ [lexeme]) ∨
      Marked (reading.step lexeme.token).children := by
  unfold Reading.step
  cases ha : reading.stage.accept lexeme.token with
  | some next => exact .inl (h.accept ha)
  | none =>
    cases hf : reading.stage.finish with
    | error what =>
      right
      have hm := marked_fail reading (.unmet what lexeme.token.lexeme) lexeme.token.span
      obtain ⟨faults, hr⟩ := resume_adds
        (reading.fail (.unmet what lexeme.token.lexeme) lexeme.token.span) lexeme.token
      dsimp only
      split
      · rw [hr]
        exact hm.append _
      · exact hm
    | ok nodes =>
      obtain ⟨s, ht, hl, hb⟩ := h.settle hf
      simp only [resume, Lexeme.token_lexeme]
      split
      · rename_i clause
        split
        · exact .inr (marked_fail _ _ _)
        · rename_i hc
          have hr : reading.rank + 1 ≤ clause.rank := by
            simp only [add] at hc
            omega
          have hw := Reads.within (Sentence.below_of_lt hb hr) (Stage.reads_opening clause)
          rw [hl, ht] at hw
          exact .inl hw
      · exact .inr (marked_fail _ _ _)

theorem foldl_children (tokens : List Token) (reading : Reading) :
    ∃ more, (tokens.foldl Reading.step reading).children = reading.children ++ more := by
  induction tokens generalizing reading with
  | nil => exact ⟨[], by simp⟩
  | cons token rest ih =>
    obtain ⟨more, hs⟩ := step_children reading token
    obtain ⟨others, hr⟩ := ih (reading.step token)
    exact ⟨more ++ others, by rw [List.foldl_cons, hr, hs, List.append_assoc]⟩

theorem run_children (lexemes : List Lexeme) (reading : Reading) :
    ∃ more, (reading.run lexemes).children = reading.children ++ more :=
  foldl_children (lexemes.map Lexeme.token) reading

theorem Reads.run {reading : Reading} {before : List Lexeme} (h : reading.Reads before)
    (lexemes : List Lexeme) :
    (reading.run lexemes).Reads (before ++ lexemes) ∨ Marked (reading.run lexemes).children := by
  induction lexemes generalizing reading before with
  | nil => exact .inl (by simpa using h)
  | cons lexeme rest ih =>
    rcases h.step lexeme with hs | hm
    · simpa using ih hs
    · obtain ⟨more, hr⟩ := run_children rest (reading.step lexeme.token)
      rw [run_cons, hr]
      exact .inr (hm.append more)

end Tree.Reading

namespace Tree

theorem firstMarker?_ne_none {kind : NodeKind} {text : Text} {place : Span} {nodes : List Tree}
    (h : Reading.Marked nodes) : (Node.mk kind text place nodes).firstMarker? ≠ none := by
  obtain ⟨node, hn, hk⟩ := h
  intro hm
  refine Node.firstMarker?_eq_none.mp hm node ?_ hk
  rw [Node.preorder_eq]
  refine List.mem_cons_of_mem _ (List.mem_flatMap.mpr ⟨node, hn, ?_⟩)
  rw [Node.preorder_eq]
  exact List.mem_cons_self

theorem exists_sentence {lexemes : List Lexeme} (h : (ofLexemes lexemes).firstMarker? = none) :
    ∃ s : Sentence, s.lexemes = lexemes := by
  rw [ofLexemes_eq] at h
  rcases Reading.Reads.nothing.run lexemes with hr | hm
  · unfold Reading.finish at h
    cases hf : (Reading.start.run lexemes).stage.finish with
    | ok nodes =>
      obtain ⟨s, -, hl, -⟩ := hr.settle hf
      exact ⟨s, hl⟩
    | error what =>
      rw [hf] at h
      exact absurd h (firstMarker?_ne_none (Reading.marked_marker _ _ _))
  · unfold Reading.finish at h
    split at h
    · exact absurd h (firstMarker?_ne_none (hm.append _))
    · exact absurd h (firstMarker?_ne_none (hm.append _))

theorem ofTokens_marker (tokens : List Token) :
    (ofTokens tokens).firstMarker? = none ↔
      (ofLexemes (tokens.map Token.lexeme)).firstMarker? = none := by
  rw [← ofTokens_unplaced, Node.unplaced, Node.firstMarker?_map]
  simp

/-- The tree of a sentence says the sentence, and its operands are grouped as they bind. -/
theorem ofTokens_sentence {tokens : List Token} {s : Sentence}
    (h : s.lexemes = tokens.map Token.lexeme) :
    (ofTokens tokens).lexemes = tokens.map Token.lexeme ∧
      ∀ node ∈ (ofTokens tokens).preorder, node.Grouped := by
  have hu := ofTokens_unplaced tokens
  rw [← h, s.read] at hu
  constructor
  · rw [← h, ← s.tree_lexemes, ← hu, Node.unplaced, Node.lexemes_map]
  · intro node hn
    have hg := s.tree_grouped (node.map fun _ => default) (by
      rw [← hu, Node.unplaced, Node.preorder_map]
      exact List.mem_map_of_mem hn)
    rwa [Node.grouped_map] at hg

/-- Reading accepts the sentences of the grammar and no other sequence of tokens; it keeps every
token of a sentence, and `NOT` binds tighter than `AND`, `AND` tighter than `OR`. -/
theorem accepts_exactly_sentences (tokens : List Token) :
    ((ofTokens tokens).firstMarker? = none ↔
      ∃ s : Sentence, s.lexemes = tokens.map Token.lexeme) ∧
    ((ofTokens tokens).firstMarker? = none →
      (ofTokens tokens).lexemes = tokens.map Token.lexeme ∧
      ∀ node ∈ (ofTokens tokens).preorder, node.Grouped) := by
  have hs : (ofTokens tokens).firstMarker? = none ↔
      ∃ s : Sentence, s.lexemes = tokens.map Token.lexeme := by
    rw [ofTokens_marker]
    refine ⟨exists_sentence, fun ⟨s, h⟩ => ?_⟩
    rw [← h, s.read, s.tree_marker]
  refine ⟨hs, fun h => ?_⟩
  obtain ⟨s, hl⟩ := hs.mp h
  exact ofTokens_sentence hl

theorem accepts_exactly_sentences_nested :
    (ofText "SELECT a WHERE NOT a = 1 AND (b = 2 OR c = 3)".toList).firstMarker? = none ∧
      ∀ node ∈ (ofText "SELECT a WHERE NOT a = 1 AND (b = 2 OR c = 3)".toList).preorder,
        node.Grouped := by
  have hm : (ofText "SELECT a WHERE NOT a = 1 AND (b = 2 OR c = 3)".toList).firstMarker? =
      none := by
    decide +kernel
  exact ⟨hm, ((accepts_exactly_sentences _).2 hm).2⟩

end Tree
end EntityQuery
