import EntityQuery.Proofs.Tree.Acceptance
import EntityQuery.Proofs.Tree.Nodes

/-! Reading looks at lexemes only: the places of the tokens are carried along. So what is read
can be studied on tokens that all stand at the same place. -/
namespace EntityQuery

def Lexeme.token (lexeme : Lexeme) : Token :=
  ⟨lexeme, default⟩

@[simp] theorem Lexeme.token_lexeme (lexeme : Lexeme) : lexeme.token.lexeme = lexeme := rfl

@[simp] theorem Lexeme.token_span (lexeme : Lexeme) : lexeme.token.span = default := rfl

/-- The tree of a sequence of lexemes, all its places the same. -/
def Tree.ofLexemes (lexemes : List Lexeme) : Tree :=
  .ofTokens (lexemes.map Lexeme.token)

def Node.unplaced (node : Tree) : Tree :=
  node.map fun _ => default

theorem Span.cover_default : Span.cover default default = default := rfl

section Tree
variable (tree left right : Tree) (a b : Span)

@[simp] theorem Node.unplaced_place : tree.unplaced.place = default := by
  simp [unplaced]

@[simp] theorem Node.unplaced_leaf (kind : NodeKind) (text : Text) :
    (leaf kind text a).unplaced = leaf kind text default := by
  simp [unplaced]

@[simp] theorem Tree.unplaced_negation :
    (tree.negation a).unplaced = tree.unplaced.negation default := by
  simp [negation, Node.unplaced, Span.cover_default]

@[simp] theorem Tree.unplaced_conjunction :
    (left.conjunction right).unplaced = left.unplaced.conjunction right.unplaced := by
  simp [conjunction, Node.unplaced, Span.cover_default]

@[simp] theorem Tree.unplaced_disjunction :
    (left.disjunction right).unplaced = left.unplaced.disjunction right.unplaced := by
  simp [disjunction, Node.unplaced, Span.cover_default]

@[simp] theorem Tree.unplaced_group :
    (tree.group a b).unplaced = tree.unplaced.group default default := by
  simp [group, Node.unplaced, Span.cover_default]

@[simp] theorem Tree.unplaced_comparison (symbol : Text) :
    (comparison symbol left right).unplaced = comparison symbol left.unplaced right.unplaced := by
  simp [comparison, Node.unplaced, Span.cover_default]

@[simp] theorem Tree.unplaced_clause (kind : Clause) (trees : List Tree) :
    (Tree.clause kind a trees).unplaced = Tree.clause kind default (trees.map Node.unplaced) := by
  simp [Tree.clause, Node.unplaced]

@[simp] theorem Tree.unplaced_marker (fault : Fault) :
    (marker fault a).unplaced = marker fault default := by
  simp [marker]

end Tree

namespace Condition

def Pending.unplaced (pending : Pending) : Pending :=
  ⟨pending.alternative.map Node.unplaced, pending.conjunct.map Node.unplaced,
    pending.negations.map fun _ => default⟩

def Enclosure.unplaced (enclosure : Enclosure) : Enclosure :=
  enclosure.map fun (_, pending) => (default, pending.unplaced)

def Due.unplaced (due : Due) : Due :=
  ⟨Enclosure.unplaced due.enclosure, due.pending.unplaced⟩

def Joined.unplaced (joined : Joined) : Joined :=
  ⟨Enclosure.unplaced joined.enclosure, joined.alternative.map Node.unplaced,
    joined.conjunct.unplaced⟩

theorem unplaced_foldl_negation (negations : List Span) (operand : Tree) :
    (negations.foldl (fun tree keyword => tree.negation keyword) operand).unplaced =
      (negations.map fun _ => default).foldl (fun tree keyword => tree.negation keyword)
        operand.unplaced := by
  induction negations generalizing operand with
  | nil => rfl
  | cons keyword rest ih => simp [ih]

theorem Pending.conjoin_unplaced (pending : Pending) (operand : Tree) :
    pending.unplaced.conjoin operand.unplaced = (pending.conjoin operand).unplaced := by
  cases pending with
  | mk alternative conjunct negations =>
    cases conjunct <;> simp [unplaced, conjoin, unplaced_foldl_negation]

theorem Due.take_unplaced (due : Due) (operand : Tree) :
    due.unplaced.take operand.unplaced = (due.take operand).unplaced := by
  simp only [take, Joined.unplaced, ← Pending.conjoin_unplaced]
  rfl

theorem Joined.whole_unplaced (joined : Joined) :
    joined.unplaced.whole = joined.whole.unplaced := by
  cases joined with
  | mk enclosure alternative conjunct => cases alternative <;> simp [unplaced, whole]

theorem Joined.or_unplaced (joined : Joined) : joined.or.unplaced = joined.unplaced.or := by
  simp only [Joined.or, whole_unplaced]
  rfl

theorem Joined.leave?_unplaced (joined : Joined) (closing : Span) :
    joined.unplaced.leave? default = (joined.leave? closing).map Joined.unplaced := by
  cases h : joined.enclosure with
  | nil => simp [leave?, h, unplaced, Enclosure.unplaced]
  | cons bracket outer =>
    have hu : joined.unplaced.enclosure =
        (default, bracket.2.unplaced) :: Enclosure.unplaced outer := by
      simp [unplaced, h, Enclosure.unplaced]
    have ht := Due.take_unplaced ⟨outer, bracket.2⟩ (joined.whole.group bracket.1 closing)
    simp only [leave?, h, hu, Option.map_some, ← ht, Tree.unplaced_group, whole_unplaced]
    rfl

end Condition

namespace Tree

def NameList.unplaced : NameList → NameList
  | projection => projection
  | ordering _ => ordering default

def Stage.unplaced : Stage → Stage
  | .start => .start
  | .projection => .projection
  | .name list before => .name list.unplaced (before.map Node.unplaced)
  | .afterName list before last =>
    .afterName list.unplaced (before.map Node.unplaced) last.unplaced
  | .entity _ => .entity default
  | .operand _ due => .operand default due.unplaced
  | .comparator _ due field => .comparator default due.unplaced field.unplaced
  | .value _ due field symbol => .value default due.unplaced field.unplaced symbol
  | .joined _ condition => .joined default condition.unplaced
  | .byWord _ => .byWord default
  | .count clause _ => .count clause default
  | .between => .between
  | .skipping => .skipping

def Reading.unplaced (reading : Reading) : Reading :=
  ⟨reading.children.map Node.unplaced, reading.rank, reading.stage.unplaced⟩

theorem name?_unplaced (token : Token) :
    token.lexeme.token.name? = token.name?.map Node.unplaced := by
  unfold Token.name?
  simp only [Lexeme.token]
  split <;> simp

theorem value?_unplaced (token : Token) :
    token.lexeme.token.value? = token.value?.map Node.unplaced := by
  unfold Token.value?
  simp only [Lexeme.token]
  split <;> simp

theorem NameList.nodes_unplaced (list : NameList) (names : List Tree) (last : Tree) :
    list.unplaced.nodes (names.map Node.unplaced) last.unplaced =
      (list.nodes names last).map Node.unplaced := by
  cases list <;> simp [unplaced, nodes, Span.cover_default]

theorem Stage.opening_unplaced (keyword : Span) (clause : Clause) :
    Stage.opening default clause = (Stage.opening keyword clause).unplaced := by
  cases clause <;> rfl

theorem Stage.finish_unplaced (stage : Stage) :
    stage.unplaced.finish = stage.finish.map (List.map Node.unplaced) := by
  cases stage with
  | afterName list before last =>
    have h := NameList.nodes_unplaced list (before ++ [last]) last
    simpa [unplaced, finish, Except.map] using h
  | joined keyword condition =>
    have hw := condition.whole_unplaced
    cases h : condition.enclosure with
    | nil =>
      have hu : condition.unplaced.enclosure = [] := by
        simp [Condition.Joined.unplaced, Condition.Enclosure.unplaced, h]
      simp [unplaced, finish, hw, h, hu, Except.map, Span.cover_default]
    | cons bracket outer =>
      have hu : condition.unplaced.enclosure =
          (default, bracket.2.unplaced) :: Condition.Enclosure.unplaced outer := by
        simp [Condition.Joined.unplaced, Condition.Enclosure.unplaced, h]
      simp [unplaced, finish, h, hu, Except.map]
  | _ => simp [unplaced, finish, Except.map]

section Accepts
variable {token : Token} {stage next : Stage} {nodes : List Tree} {name value : Tree}

theorem name?_token (h : token.name? = some name) :
    token.lexeme.token.name? = some name.unplaced := by
  rw [name?_unplaced, h, Option.map_some]

theorem value?_token (h : token.value? = some value) :
    token.lexeme.token.value? = some value.unplaced := by
  rw [value?_unplaced, h, Option.map_some]

theorem Stage.Accepts.unplaced (h : Accepts token stage nodes next) :
    Accepts token.lexeme.token stage.unplaced (nodes.map Node.unplaced) next.unplaced := by
  cases h with
  | select h => exact .select h
  | star h =>
    rw [List.map_singleton, Node.unplaced_leaf]
    exact .star h
  | firstName h => exact .firstName (name?_token h)
  | name h => exact .name (name?_token h)
  | comma h =>
    simp only [Stage.unplaced, List.map_append, List.map_singleton]
    exact .comma h
  | direction h hw =>
    rw [← NameList.nodes_unplaced, List.map_append]
    exact .direction h (by rw [hw, Node.unplaced_leaf]; rfl)
  | entity h =>
    have he := @Accepts.entity token.lexeme.token default _ (name?_token h)
    rw [Node.unplaced_place, Span.cover_default] at he
    rwa [List.map_singleton, Tree.unplaced_clause, List.map_singleton]
  | not h => exact .not h
  | openParen h => exact .openParen h
  | field h => exact .field (name?_token h)
  | comparator h => exact .comparator h
  | value h =>
    simp only [Stage.unplaced, ← Condition.Due.take_unplaced, Tree.unplaced_comparison]
    exact .value (value?_token h)
  | and h => exact .and h
  | or h =>
    simp only [Stage.unplaced, Condition.Joined.or_unplaced]
    exact .or h
  | closeParen h ho =>
    exact .closeParen h (by rw [Lexeme.token_span, Condition.Joined.leave?_unplaced, ho]; rfl)
  | byWord h => exact .byWord h
  | integer h =>
    rw [List.map_singleton, Tree.unplaced_clause, List.map_singleton, Node.unplaced_leaf]
    exact .integer h
  | skip h => exact .skip h

theorem exists_name? (h : token.lexeme.token.name? = some name) :
    ∃ placed, token.name? = some placed := by
  rw [name?_unplaced, Option.map_eq_some_iff] at h
  exact h.imp fun _ hp => hp.1

theorem exists_value? (h : token.lexeme.token.value? = some value) :
    ∃ placed, token.value? = some placed := by
  rw [value?_unplaced, Option.map_eq_some_iff] at h
  exact h.imp fun _ hp => hp.1

/-- No rule hangs on the places. -/
theorem Stage.Accepts.placed (h : Accepts token.lexeme.token stage.unplaced nodes next) :
    ∃ nodes next, Accepts token stage nodes next := by
  cases stage with
  | start =>
    cases h with
    | select h => exact ⟨_, _, .select h⟩
  | projection =>
    cases h with
    | star h => exact ⟨_, _, .star h⟩
    | firstName h =>
      obtain ⟨field, hf⟩ := exists_name? h
      exact ⟨_, _, .firstName hf⟩
  | name list before =>
    cases h with
    | name h =>
      obtain ⟨field, hf⟩ := exists_name? h
      exact ⟨_, _, .name hf⟩
  | afterName list before last =>
    cases list with
    | projection =>
      cases h with
      | comma h => exact ⟨_, _, .comma h⟩
    | ordering keyword =>
      cases h with
      | comma h => exact ⟨_, _, .comma h⟩
      | direction h => exact ⟨_, _, .direction h rfl⟩
  | entity keyword =>
    cases h with
    | entity h =>
      obtain ⟨entity, he⟩ := exists_name? h
      exact ⟨_, _, .entity he⟩
  | operand keyword due =>
    cases h with
    | not h => exact ⟨_, _, .not h⟩
    | openParen h => exact ⟨_, _, .openParen h⟩
    | field h =>
      obtain ⟨field, hf⟩ := exists_name? h
      exact ⟨_, _, .field hf⟩
  | comparator keyword due field =>
    cases h with
    | comparator h => exact ⟨_, _, .comparator h⟩
  | value keyword due field symbol =>
    cases h with
    | value h =>
      obtain ⟨literal, hl⟩ := exists_value? h
      exact ⟨_, _, .value hl⟩
  | joined keyword condition =>
    cases h with
    | and h => exact ⟨_, _, .and h⟩
    | or h => exact ⟨_, _, .or h⟩
    | closeParen h ho =>
      have hl := condition.leave?_unplaced token.span
      obtain ⟨outer, hp, -⟩ := Option.map_eq_some_iff.mp (hl.symm.trans ho)
      exact ⟨_, _, .closeParen h hp⟩
  | byWord keyword =>
    cases h with
    | byWord h => exact ⟨_, _, .byWord h⟩
  | count paging keyword =>
    cases h with
    | integer h => exact ⟨_, _, .integer h⟩
  | between => cases h
  | skipping =>
    cases h with
    | skip h => exact ⟨_, _, .skip h⟩

theorem Stage.accept_unplaced (stage : Stage) (token : Token) :
    stage.unplaced.accept token.lexeme.token =
      (stage.accept token).map fun (nodes, next) =>
        (nodes.map Node.unplaced, next.unplaced) := by
  cases ha : stage.accept token with
  | some accepted =>
    obtain ⟨nodes, next⟩ := accepted
    exact accept_eq_some_iff.mpr (accept_eq_some_iff.mp ha).unplaced
  | none =>
    refine Option.eq_none_iff_forall_ne_some.mpr fun accepted hu => ?_
    obtain ⟨nodes, next, h⟩ := (accept_eq_some_iff.mp hu).placed
    rw [accept_eq_some_iff.mpr h] at ha
    cases ha

end Accepts

namespace Reading

theorem add_unplaced (reading : Reading) (nodes : List Tree) (stage : Stage) :
    reading.unplaced.add (nodes.map Node.unplaced) stage.unplaced =
      (reading.add nodes stage).unplaced := by
  simp [add, unplaced]

theorem fail_unplaced (reading : Reading) (fault : Fault) (span : Span) :
    reading.unplaced.fail fault default = (reading.fail fault span).unplaced := by
  simp only [fail, ← add_unplaced, List.map_cons, Tree.unplaced_marker, List.map_nil]
  rfl

theorem resume_unplaced (reading : Reading) (token : Token) :
    reading.unplaced.resume token.lexeme.token = (reading.resume token).unplaced := by
  have hr : reading.unplaced.rank = reading.rank := rfl
  unfold resume
  rw [Lexeme.token_lexeme, Lexeme.token_span, hr]
  split
  · rename_i clause h
    by_cases hc : clause.rank ≤ reading.rank
    · simp only [if_pos hc, fail_unplaced reading _ token.span]
    · rw [if_neg hc, if_neg hc, Stage.opening_unplaced token.span]
      rfl
  · exact fail_unplaced reading _ token.span

theorem step_unplaced (reading : Reading) (token : Token) :
    reading.unplaced.step token.lexeme.token = (reading.step token).unplaced := by
  have ha := Stage.accept_unplaced reading.stage token
  have hf := Stage.finish_unplaced reading.stage
  have hs : reading.unplaced.stage = reading.stage.unplaced := rfl
  unfold step
  rw [hs, ha]
  cases h : reading.stage.accept token with
  | some next => exact add_unplaced reading next.1 next.2
  | none =>
    rw [hf]
    cases reading.stage.finish with
    | ok nodes =>
      have hn := add_unplaced reading nodes .between
      simp only [Option.map_none, Except.map]
      rw [← resume_unplaced, ← hn]
      rfl
    | error what =>
      have hm := fail_unplaced reading (.unmet what token.lexeme) token.span
      simp only [Option.map_none, Except.map]
      by_cases hc : token.lexeme.isClause
      · simp only [if_pos hc, ← resume_unplaced, ← hm]
        rw [if_pos (by exact hc)]
        rfl
      · simp only [if_neg hc, ← hm]
        rw [if_neg (by exact hc)]
        rfl

def run (reading : Reading) (lexemes : List Lexeme) : Reading :=
  (lexemes.map Lexeme.token).foldl step reading

theorem run_unplaced (tokens : List Token) (reading : Reading) :
    reading.unplaced.run (tokens.map Token.lexeme) = (tokens.foldl step reading).unplaced := by
  induction tokens generalizing reading with
  | nil => rfl
  | cons token rest ih =>
    have h := ih (reading.step token)
    rw [← step_unplaced] at h
    exact h

theorem finish_unplaced (reading : Reading) (stop : Nat) :
    reading.unplaced.finish 0 = (reading.finish stop).map Node.unplaced := by
  have hf := Stage.finish_unplaced reading.stage
  have hs : reading.unplaced.stage = reading.stage.unplaced := rfl
  unfold finish
  rw [hs, hf]
  cases reading.stage.finish with
  | ok nodes => simp [Except.map, unplaced]
  | error what => simp [Except.map, unplaced]; rfl

end Reading

theorem ofLexemes_eq (lexemes : List Lexeme) :
    ofLexemes lexemes =
      ⟨.select, "SELECT".toList, default, (Reading.start.run lexemes).finish 0⟩ := by
  have hh : ((lexemes.map Lexeme.token).head?.map Token.span).getD default = default := by
    cases lexemes <;> rfl
  have hl : ((lexemes.map Lexeme.token).getLast?.map Token.span).getD default = default := by
    rw [List.getLast?_map]
    cases lexemes.getLast? <;> rfl
  simp only [ofLexemes, ofTokens, hh, hl, Span.cover_default]
  rfl

/-- The tree of a sequence of tokens hangs on their lexemes, but for its places. -/
theorem ofTokens_unplaced (tokens : List Token) :
    (ofTokens tokens).unplaced = ofLexemes (tokens.map Token.lexeme) := by
  have hr := Reading.run_unplaced tokens .start
  have hf := Reading.finish_unplaced (tokens.foldl Reading.step .start)
    ((tokens.getLast?.map Token.span).getD default).stop
  rw [← hr] at hf
  rw [ofLexemes_eq, ofTokens, Node.unplaced, Node.map_mk]
  exact congrArg _ hf.symm

end Tree
end EntityQuery
