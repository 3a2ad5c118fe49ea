import EntityQuery.Proofs.Grammar.Tree

/-! Every sentence is read, and what is read is its tree. The steps of a phrase are followed from
any state in which the phrase is due to the state in which it has been read. -/
namespace EntityQuery
open Condition EntityQuery.Tree

theorem Tree.Stage.accept_of_clause (stage : Stage) {token : Token}
    (h : token.lexeme.isClause = true) : stage.accept token = none := by
  obtain ⟨lexeme, span⟩ := token
  cases lexeme with
  | clause clause =>
    cases stage with
    | afterName list before last => cases list <;> rfl
    | _ => rfl
  | _ => cases h

namespace Tree.Reading
variable (reading : Reading) (children : List Tree) (rank : Nat)

@[simp] theorem run_nil : reading.run [] = reading := rfl

@[simp] theorem run_cons (lexeme : Lexeme) (rest : List Lexeme) :
    reading.run (lexeme :: rest) = (reading.step lexeme.token).run rest := rfl

theorem run_append (before after : List Lexeme) :
    reading.run (before ++ after) = (reading.run before).run after := by
  simp [run]

theorem step_accepted {token : Token} {stage next : Stage} {nodes : List Tree}
    (h : stage.accept token = some (nodes, next)) :
    step ⟨children, rank, stage⟩ token = ⟨children ++ nodes, rank, next⟩ := by
  simp [step, h, add]

theorem step_within {token : Token} {stage next : Stage}
    (h : stage.accept token = some ([], next)) :
    step ⟨children, rank, stage⟩ token = ⟨children, rank, next⟩ := by
  simpa using step_accepted children rank h

/-- The part that is being read may end, and then the children are these and no clause of a rank
above this one has been read. -/
def Settled : Prop :=
  reading.rank ≤ rank ∧ ∃ nodes, reading.stage.finish = .ok nodes ∧
    reading.children ++ nodes = children

variable {reading children rank}

theorem Settled.step_clause (h : reading.Settled children rank) {clause : Clause}
    (hr : rank < clause.rank) :
    reading.step (Lexeme.clause clause).token =
      ⟨children, clause.rank, .opening default clause⟩ := by
  obtain ⟨hle, nodes, hf, rfl⟩ := h
  have ha : reading.stage.accept (Lexeme.clause clause).token = none :=
    reading.stage.accept_of_clause rfl
  have hc : ¬ clause.rank ≤ (reading.add nodes .between).rank := by
    simp only [add]
    omega
  simp only [step, ha, hf, resume, Lexeme.token_lexeme, if_neg hc]
  rfl

theorem Settled.finish (h : reading.Settled children rank) (stop : Nat) :
    reading.finish stop = children := by
  obtain ⟨-, nodes, hf, rfl⟩ := h
  simp [Reading.finish, hf]

end Tree.Reading

namespace Grammar
open Reading

@[simp] theorem Name.name?_lexeme (name : Name) : name.lexeme.token.name? = some name.tree := by
  cases name <;> rfl

@[simp] theorem Literal.value?_lexeme (literal : Literal) :
    literal.lexeme.token.value? = some literal.tree := by
  cases literal <;> rfl

theorem Name.accept_operand (name : Name) (keyword : Span) (due : Due) :
    (Stage.operand keyword due).accept name.lexeme.token =
      some ([], .comparator keyword due name.tree) := by
  cases name <;> rfl

theorem accept_comparator (op : Operator) (keyword : Span) (due : Due) (field : Tree) :
    (Stage.comparator keyword due field).accept (Lexeme.comparator op).token =
      some ([], .value keyword due field (Text.asciiLower op.symbol.toList)) := rfl

theorem Literal.accept_value (literal : Literal) (keyword : Span) (due : Due) (field : Tree)
    (symbol : Text) :
    (Stage.value keyword due field symbol).accept literal.lexeme.token =
      some ([], .joined keyword (due.take (.comparison symbol field literal.tree))) := by
  simp [Stage.accept]

theorem negate_take (due : Due) (keyword : Span) (operand : Tree) :
    (due.negate keyword).take operand = due.take (operand.negation keyword) := rfl

def Phrase.joined (enclosure : Enclosure) : Phrase .disjunction → Joined
  | alternative conjunction => ⟨enclosure, none, conjunction.tree⟩
  | or left right => ⟨enclosure, some left.tree, right.tree⟩

@[simp] theorem Phrase.joined_whole (enclosure : Enclosure) (w : Phrase .disjunction) :
    (w.joined enclosure).whole = w.tree := by
  cases w <;> rfl

@[simp] theorem Phrase.joined_enclosure (enclosure : Enclosure) (w : Phrase .disjunction) :
    (w.joined enclosure).enclosure = enclosure := by
  cases w <;> rfl

theorem Phrase.joined_or (enclosure : Enclosure) (w : Phrase .disjunction) :
    (w.joined enclosure).or = ⟨enclosure, some w.tree, none, []⟩ := by
  simp [Joined.or]

/-- Where a phrase may start, and where it leads. An operand may follow `NOT`s and the left side
of an open `AND`, a conjunction the left side of an open `OR`. -/
def Phrase.Read : {b : Binding} → Phrase b → Prop
  | .operand, w => ∀ children rank keyword due,
    run ⟨children, rank, .operand keyword due⟩ w.lexemes =
      ⟨children, rank, .joined keyword (due.take w.tree)⟩
  | .conjunction, w => ∀ children rank keyword enclosure left,
    run ⟨children, rank, .operand keyword ⟨enclosure, left, none, []⟩⟩ w.lexemes =
      ⟨children, rank, .joined keyword ⟨enclosure, left, w.tree⟩⟩
  | .disjunction, w => ∀ children rank keyword enclosure,
    run ⟨children, rank, .operand keyword ⟨enclosure, none, none, []⟩⟩ w.lexemes =
      ⟨children, rank, .joined keyword (w.joined enclosure)⟩

theorem Comparison.read (c : Comparison) : (Phrase.comparison c).Read := by
  intro children rank keyword due
  have hf := c.field.accept_operand keyword due
  have ho := accept_comparator c.op keyword due c.field.tree
  have hv := c.value.accept_value keyword due c.field.tree (Text.asciiLower c.op.symbol.toList)
  simp only [Phrase.lexemes, lexemes, run_cons, run_nil, step_within _ _ hf, step_within _ _ ho,
    step_within _ _ hv]
  rfl

theorem Phrase.read {b : Binding} (w : Phrase b) : w.Read := by
  induction w with
  | comparison c => exact c.read
  | group inner ih =>
    intro children rank keyword due
    have ho : (Stage.operand keyword due).accept Lexeme.openParen.token =
        some ([], .operand keyword (due.enter default)) := rfl
    have hc : (Stage.joined keyword (inner.joined ((default, due.pending) :: due.enclosure))).accept
        Lexeme.closeParen.token =
          some ([], .joined keyword (due.take (inner.tree.group default default))) := by
      simp [Stage.accept, Joined.leave?]
    rw [lexemes, List.cons_append, run_cons, step_within _ _ ho, run_append, Due.enter, ih,
      run_cons, step_within _ _ hc]
    rfl
  | not operand ih =>
    intro children rank keyword due
    have hn : (Stage.operand keyword due).accept Lexeme.not.token =
        some ([], .operand keyword (due.negate default)) := rfl
    rw [lexemes, run_cons, step_within _ _ hn, ih, negate_take]
    rfl
  | conjunct operand ih =>
    intro children rank keyword enclosure left
    exact ih children rank keyword ⟨enclosure, left, none, []⟩
  | and left right ihl ihr =>
    intro children rank keyword enclosure before
    have ha : (Stage.joined keyword ⟨enclosure, before, left.tree⟩).accept Lexeme.and.token =
        some ([], .operand keyword ⟨enclosure, before, some left.tree, []⟩) := rfl
    rw [lexemes, run_append, ihl, run_cons, step_within _ _ ha, ihr]
    rfl
  | alternative conjunction ih =>
    intro children rank keyword enclosure
    exact ih children rank keyword enclosure none
  | or left right ihl ihr =>
    intro children rank keyword enclosure
    have ho : (Stage.joined keyword (left.joined enclosure)).accept Lexeme.or.token =
        some ([], .operand keyword ⟨enclosure, some left.tree, none, []⟩) := by
      simp [Stage.accept, joined_or]
    rw [lexemes, run_append, ihl, run_cons, step_within _ _ ho, ihr]
    rfl

theorem Names.read_more (more : List Name) (list : NameList) (before : List Tree) (last : Name)
    (children : List Tree) (rank : Nat) :
    ∃ init final, init ++ [Name.tree final] = before ++ last.tree :: more.map Name.tree ∧
      run ⟨children, rank, .afterName list before last.tree⟩
        (more.flatMap fun name => [.comma, name.lexeme]) =
      ⟨children, rank, .afterName list init final.tree⟩ := by
  induction more generalizing before last with
  | nil => exact ⟨before, last, rfl, rfl⟩
  | cons name more ih =>
    have hc : (Stage.afterName list before last.tree).accept Lexeme.comma.token =
        some ([], .name list (before ++ [last.tree])) := by
      cases list <;> rfl
    have hn : (Stage.name list (before ++ [last.tree])).accept name.lexeme.token =
        some ([], .afterName list (before ++ [last.tree]) name.tree) := by
      simp [Stage.accept]
    obtain ⟨init, final, he, hr⟩ := ih (before ++ [last.tree]) name
    refine ⟨init, final, by simpa using he, ?_⟩
    simpa [step_within _ _ hc, step_within _ _ hn] using hr

theorem Projection.read (projection : Projection) :
    (Reading.start.run (.select :: projection.lexemes)).Settled projection.trees 0 := by
  have hs : Stage.start.accept Lexeme.select.token = some ([], .projection) := rfl
  cases projection with
  | all => exact ⟨Nat.le_refl 0, [], rfl, rfl⟩
  | names list =>
    have hn : Stage.projection.accept list.first.lexeme.token =
        some ([], .afterName .projection [] list.first.tree) := by
      cases list.first <;> rfl
    obtain ⟨init, final, he, hr⟩ := Names.read_more list.more .projection [] list.first [] 0
    simp only [lexemes, Names.lexemes, run_cons, Reading.start, step_within _ _ hs,
      step_within _ _ hn, hr]
    exact ⟨Nat.le_refl 0, init ++ [final.tree], rfl, he⟩

theorem Ordering.read (ordering : Ordering) (children : List Tree) (rank : Nat) :
    (run ⟨children, rank, .byWord default⟩ (.byWord :: ordering.lexemes)).Settled
      (children ++ [(Part.ordering ordering).tree]) rank := by
  have hb : (Stage.byWord default).accept Lexeme.byWord.token =
      some ([], .name (.ordering default) []) := rfl
  have hn : (Stage.name (.ordering default) []).accept ordering.names.first.lexeme.token =
      some ([], .afterName (.ordering default) [] ordering.names.first.tree) := by
    simp [Stage.accept]
  obtain ⟨init, final, he, hr⟩ := Names.read_more ordering.names.more (.ordering default) []
    ordering.names.first children rank
  simp only [lexemes, Names.lexemes, List.cons_append, run_cons, run_append, step_within _ _ hb,
    step_within _ _ hn, hr]
  cases hd : ordering.direction with
  | none =>
    refine ⟨Nat.le_refl rank, _, rfl, ?_⟩
    simp [NameList.nodes, he, Part.tree, Part.clause, Part.children, Ordering.trees, Names.trees,
      hd, Span.cover_default]
  | some direction =>
    have hw : (Stage.afterName (.ordering default) init final.tree).accept
        (Lexeme.direction direction).token =
          some ([.clause .ordering default (init ++ [final.tree, directionTree direction])],
            .between) := rfl
    have ht : init ++ [final.tree, directionTree direction] =
        ordering.names.trees ++ [directionTree direction] := by
      rw [List.append_cons, he]
      rfl
    refine ⟨?_, [], ?_, ?_⟩ <;> simp [step_accepted _ _ hw]
    · rfl
    · simp [ht, Part.tree, Part.clause, Part.children, Ordering.trees, hd]

theorem Part.read (part : Part) {reading : Reading} {children : List Tree} {rank : Nat}
    (h : reading.Settled children rank) (hr : rank < part.clause.rank) :
    (reading.run part.lexemes).Settled (children ++ [part.tree]) part.clause.rank := by
  have hs := h.step_clause hr
  cases part with
  | source entity =>
    have hn : (Stage.entity default).accept entity.lexeme.token =
        some ([(Part.source entity).tree], .between) := by
      simp [Stage.accept, tree, clause, Part.children, Span.cover_default]
    simp only [clause] at hs
    simp only [lexemes, run_cons, run_nil, hs, Stage.opening, step_accepted _ _ hn]
    exact ⟨Nat.le_refl _, [], rfl, by simp⟩
  | filter condition =>
    have hw := condition.read children Clause.filter.rank default []
    simp only [clause] at hs
    simp only [lexemes, run_cons, hs, Stage.opening, Due.start, hw]
    refine ⟨Nat.le_refl _, [(Part.filter condition).tree], ?_, rfl⟩
    simp [Stage.finish, tree, clause, Part.children, Span.cover_default]
  | ordering list =>
    simp only [clause] at hs
    simp only [lexemes, run_cons, hs, Stage.opening]
    exact list.read children Clause.ordering.rank
  | limit count =>
    simp only [clause] at hs
    simp only [lexemes, run_cons, run_nil, hs]
    exact ⟨Nat.le_refl _, [], rfl, by simp; rfl⟩
  | offset count =>
    simp only [clause] at hs
    simp only [lexemes, run_cons, run_nil, hs]
    exact ⟨Nat.le_refl _, [], rfl, by simp; rfl⟩

theorem Part.read_all (parts : List Part) {reading : Reading} {children : List Tree} {rank : Nat}
    (h : reading.Settled children rank)
    (hp : (parts.map fun part => part.clause.rank).Pairwise (· < ·))
    (hr : ∀ part ∈ parts, rank < part.clause.rank) :
    ∃ last, (reading.run (parts.flatMap lexemes)).Settled (children ++ parts.map tree) last := by
  induction parts generalizing reading children rank with
  | nil => exact ⟨rank, by simpa using h⟩
  | cons part rest ih =>
    obtain ⟨hlt, hrest⟩ := List.pairwise_cons.mp hp
    have hs := part.read h (hr part (by simp))
    obtain ⟨last, hl⟩ := ih hs hrest fun p hm => hlt _ (List.mem_map_of_mem hm)
    exact ⟨last, by simpa [run_append] using hl⟩

theorem Sentence.parts_ranks (s : Sentence) :
    (s.parts.map fun part => part.clause.rank).Pairwise (· < ·) := by
  cases s with
  | mk projection source filter ordering limit offset =>
    cases source <;> cases filter <;> cases ordering <;> cases limit <;> cases offset <;>
      simp [parts, Part.clause, Clause.rank]

theorem Sentence.read (s : Sentence) : Tree.ofLexemes s.lexemes = s.tree := by
  have hp := s.projection.read
  have hr : ∀ part ∈ s.parts, 0 < part.clause.rank := fun part _ => by
    cases part <;> simp [Part.clause, Clause.rank]
  obtain ⟨last, h⟩ := Part.read_all s.parts hp s.parts_ranks hr
  rw [← run_append] at h
  rw [ofLexemes_eq, lexemes, List.cons_append, ← List.cons_append, h.finish]
  rfl

end Grammar
end EntityQuery
