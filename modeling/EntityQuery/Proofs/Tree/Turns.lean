import Mathlib.Data.List.Infix
import EntityQuery.Proofs.Tree.Positions

/-! Reading in turns. The projection is read first. After it every turn begins at the token that has
ended the part before: a clause is read from there as far as it goes, or it fails with an error
marker and all is skipped up to the next clause keyword. -/
namespace EntityQuery

def Token.rank (token : Token) : Nat :=
  match token.lexeme with
  | .clause clause => clause.rank
  | _ => 0

theorem Token.rank_of_clause {token : Token} {clause : Clause} (h : token.lexeme = .clause clause) :
    token.rank = clause.rank := by
  simp [rank, h]

theorem Token.rank_of_not_clause {token : Token} (h : token.lexeme.isClause = false) :
    token.rank = 0 := by
  unfold rank
  split
  · rename_i hl
    simp [hl, Lexeme.isClause] at h
  · rfl

namespace Tree

def untilClause (tokens : List Token) : List Token :=
  tokens.takeWhile fun token => !token.lexeme.isClause

def NoneOpens (tokens : List Token) : Prop :=
  ∀ token ∈ tokens, token.lexeme.isClause = false

/-- The tokens that a turn consumes, and the nodes that it leaves below the root. -/
structure Turn where
  tokens : List Token
  nodes : List Tree

namespace Turn

def prepend (turn : Turn) (token : Token) (nodes : List Tree) : Turn :=
  ⟨token :: turn.tokens, nodes ++ turn.nodes⟩

/-- An error marker, and all is skipped up to the next clause keyword. -/
def failed (fault : Fault) (span : Span) (tokens : List Token) : Turn :=
  ⟨untilClause tokens, [marker fault span]⟩

end Turn

/-- The rest of a part: what it takes from the tokens that are left, the last of which ends at byte
`stop`. -/
def Stage.turn (stop : Nat) : Stage → List Token → Turn
  | stage, [] =>
    match stage.finish with
    | .ok nodes => ⟨[], nodes⟩
    | .error what => ⟨[], [marker (.ended what) (.point stop)]⟩
  | stage, token :: rest =>
    match stage.accept token with
    | some (nodes, next) => (next.turn stop rest).prepend token nodes
    | none =>
      match stage.finish with
      | .ok nodes => ⟨[], nodes⟩
      | .error what => .failed (.unmet what token.lexeme) token.span (token :: rest)

/-- The turn that begins at a token after some part, where `rank` is the highest of the clauses
before it. -/
def Turn.next (stop rank : Nat) (token : Token) (rest : List Token) : Turn :=
  match token.lexeme with
  | .clause clause =>
    if clause.rank ≤ rank then (failed (.misplaced clause) token.span rest).prepend token []
    else ((Stage.opening token.span clause).turn stop rest).prepend token []
  | found => failed (.stray found) token.span (token :: rest)

section Tokens
variable {stop rank : Nat} {token : Token} {rest tokens : List Token} {stage : Stage}

theorem untilClause_isPrefix (tokens : List Token) : untilClause tokens <+: tokens :=
  List.takeWhile_prefix _

theorem noneOpens_untilClause (tokens : List Token) : NoneOpens (untilClause tokens) := by
  intro token hm
  simpa using List.mem_takeWhile_imp hm

theorem untilClause_of_clause (h : token.lexeme.isClause = true) :
    untilClause (token :: rest) = [] := by
  simp [untilClause, h]

theorem untilClause_of_not_clause (h : token.lexeme.isClause = false) :
    untilClause (token :: rest) = token :: untilClause rest := by
  simp [untilClause, h]

theorem Stage.turn_accepted {next : Stage} {nodes : List Tree}
    (h : stage.accept token = some (nodes, next)) :
    stage.turn stop (token :: rest) = (next.turn stop rest).prepend token nodes := by
  rw [turn, h]

theorem Stage.turn_ended {nodes : List Tree} (ha : stage.accept token = none)
    (hf : stage.finish = .ok nodes) : stage.turn stop (token :: rest) = ⟨[], nodes⟩ := by
  rw [turn, ha]
  simp only [hf]

theorem Stage.turn_failed {what : Expectation} (ha : stage.accept token = none)
    (hf : stage.finish = .error what) :
    stage.turn stop (token :: rest) =
      .failed (.unmet what token.lexeme) token.span (token :: rest) := by
  rw [turn, ha]
  simp only [hf]

theorem Stage.turn_skipping (stop : Nat) (tokens : List Token) :
    skipping.turn stop tokens = ⟨untilClause tokens, []⟩ := by
  induction tokens with
  | nil => rfl
  | cons token rest ih =>
    cases hc : token.lexeme.isClause with
    | true =>
      rw [turn_ended (skipping.accept_of_clause hc) rfl, untilClause_of_clause hc]
    | false =>
      have ha : skipping.accept token = some ([], skipping) := by
        simp [accept, hc]
      rw [turn_accepted ha, ih, untilClause_of_not_clause hc]
      rfl

theorem Stage.turn_tokens (stop : Nat) (stage : Stage) (tokens : List Token) :
    (stage.turn stop tokens).tokens <+: tokens ∧ NoneOpens (stage.turn stop tokens).tokens := by
  induction tokens generalizing stage with
  | nil =>
    unfold turn
    cases stage.finish <;> exact ⟨List.nil_prefix, fun _ hm => by cases hm⟩
  | cons token rest ih =>
    cases ha : stage.accept token with
    | some accepted =>
      obtain ⟨nodes, next⟩ := accepted
      obtain ⟨hp, hn⟩ := ih next
      rw [turn_accepted ha]
      refine ⟨List.cons_prefix_cons.mpr ⟨rfl, hp⟩, List.forall_mem_cons.mpr ⟨?_, hn⟩⟩
      cases hc : token.lexeme.isClause with
      | true => rw [stage.accept_of_clause hc] at ha; cases ha
      | false => rfl
    | none =>
      cases hf : stage.finish with
      | ok nodes =>
        rw [turn_ended ha hf]
        exact ⟨List.nil_prefix, fun _ hm => by cases hm⟩
      | error what =>
        rw [turn_failed ha hf]
        exact ⟨untilClause_isPrefix _, noneOpens_untilClause _⟩

theorem Turn.next_misplaced {clause : Clause} (hl : token.lexeme = .clause clause)
    (hr : clause.rank ≤ rank) :
    next stop rank token rest = (failed (.misplaced clause) token.span rest).prepend token [] := by
  simp only [next, hl]
  exact if_pos hr

theorem Turn.next_opening {clause : Clause} (hl : token.lexeme = .clause clause)
    (hr : rank < clause.rank) :
    next stop rank token rest =
      ((Stage.opening token.span clause).turn stop rest).prepend token [] := by
  simp only [next, hl]
  exact if_neg (Nat.not_le.mpr hr)

theorem Turn.next_stray (h : token.lexeme.isClause = false) :
    next stop rank token rest = failed (.stray token.lexeme) token.span (token :: rest) := by
  obtain ⟨lexeme, span⟩ := token
  cases lexeme with
  | clause clause => cases h
  | _ => rfl

theorem exists_clause (h : token.lexeme.isClause = true) :
    ∃ clause, token.lexeme = .clause clause := by
  cases hl : token.lexeme with
  | clause clause => exact ⟨clause, rfl⟩
  | _ => simp [hl, Lexeme.isClause] at h

theorem Turn.next_cases (rank : Nat) (token : Token) :
    (∃ clause, token.lexeme = .clause clause ∧ clause.rank ≤ rank) ∨
    (∃ clause, token.lexeme = .clause clause ∧ rank < clause.rank) ∨
    token.lexeme.isClause = false := by
  cases hc : token.lexeme.isClause with
  | false => exact .inr (.inr rfl)
  | true =>
    obtain ⟨clause, hl⟩ := exists_clause hc
    rcases Nat.lt_or_ge rank clause.rank with hr | hr
    · exact .inr (.inl ⟨clause, hl, hr⟩)
    · exact .inl ⟨clause, hl, hr⟩

theorem Turn.next_tokens (stop rank : Nat) (token : Token) (rest : List Token) :
    ∃ taken, (next stop rank token rest).tokens = token :: taken ∧ taken <+: rest ∧
      NoneOpens taken := by
  have hskip := And.intro (untilClause_isPrefix rest) (noneOpens_untilClause rest)
  obtain ⟨clause, hl, hr⟩ | ⟨clause, hl, hr⟩ | hn := next_cases rank token
  · rw [next_misplaced hl hr]
    exact ⟨untilClause rest, rfl, hskip⟩
  · rw [next_opening hl hr]
    exact ⟨_, rfl, Stage.turn_tokens stop _ rest⟩
  · rw [next_stray hn]
    exact ⟨untilClause rest, untilClause_of_not_clause hn, hskip⟩

theorem Turn.next_length_pos (stop rank : Nat) (token : Token) (rest : List Token) :
    0 < (next stop rank token rest).tokens.length := by
  obtain ⟨taken, ht, -, -⟩ := next_tokens stop rank token rest
  rw [ht]
  exact Nat.zero_lt_succ _

theorem Turn.next_isPrefix (stop rank : Nat) (token : Token) (rest : List Token) :
    (next stop rank token rest).tokens <+: token :: rest := by
  obtain ⟨taken, ht, hp, -⟩ := next_tokens stop rank token rest
  rw [ht]
  exact List.cons_prefix_cons.mpr ⟨rfl, hp⟩

end Tokens

/-- The turns after the projection. A clause that is out of place does not lower the rank, one that
fails raises it. -/
def turns (stop rank : Nat) (tokens : List Token) : List Turn :=
  match tokens with
  | [] => []
  | token :: rest =>
    let turn := Turn.next stop rank token rest
    turn :: turns stop (max rank token.rank) ((token :: rest).drop turn.tokens.length)
termination_by tokens.length
decreasing_by
  have h := Turn.next_length_pos stop rank token rest
  simp only [List.length_drop, List.length_cons]
  omega

section Tokens
variable {stop rank : Nat} {token : Token} {rest tokens : List Token}

@[simp] theorem turns_nil (stop rank : Nat) : turns stop rank [] = [] := by
  rw [turns]

theorem turns_cons (stop rank : Nat) (token : Token) (rest : List Token) :
    turns stop rank (token :: rest) =
      Turn.next stop rank token rest :: turns stop (max rank token.rank)
        ((token :: rest).drop (Turn.next stop rank token rest).tokens.length) := by
  rw [turns]

theorem turns_tokens (stop rank : Nat) (tokens : List Token) :
    (turns stop rank tokens).flatMap Turn.tokens = tokens := by
  induction rank, tokens using turns.induct stop with
  | case1 rank => simp
  | case2 rank token rest turn ih =>
    rw [turns_cons, List.flatMap_cons, ih]
    exact (List.prefix_append_drop (Turn.next_isPrefix stop rank token rest)).symm

theorem turns_tokens_ne_nil (stop rank : Nat) (tokens : List Token) :
    ∀ turn ∈ turns stop rank tokens, turn.tokens ≠ [] := by
  induction rank, tokens using turns.induct stop with
  | case1 rank => simp
  | case2 rank token rest turn ih =>
    rw [turns_cons]
    refine List.forall_mem_cons.mpr ⟨?_, ih⟩
    exact List.length_pos_iff.mp (Turn.next_length_pos stop rank token rest)

end Tokens

namespace Reading
variable {stop : Nat} {token : Token} {rest tokens : List Token}

/-- However far a reading has come, the rest of its part and the turns after that give the nodes
that it leads to. -/
def InTurns (stop : Nat) (tokens : List Token) : Prop :=
  ∀ reading : Reading, (tokens.foldl step reading).finish stop =
    reading.children ++ ((reading.stage.turn stop tokens).nodes ++
      (turns stop reading.rank
        (tokens.drop (reading.stage.turn stop tokens).tokens.length)).flatMap Turn.nodes)

theorem inTurns_nil (stop : Nat) : InTurns stop [] := by
  intro reading
  simp only [List.foldl_nil, finish, Stage.turn, List.drop_nil, turns_nil, List.flatMap_nil,
    List.append_nil]
  cases reading.stage.finish <;> rfl

theorem InTurns.fail (h : InTurns stop rest) (reading : Reading) (fault : Fault) (span : Span) :
    (rest.foldl step (reading.fail fault span)).finish stop =
      reading.children ++ marker fault span ::
        (turns stop reading.rank (rest.drop (untilClause rest).length)).flatMap Turn.nodes := by
  rw [h, Reading.fail, add, Stage.turn_skipping]
  simp

theorem resume_misplaced (reading : Reading) {clause : Clause} (hl : token.lexeme = .clause clause)
    (hr : clause.rank ≤ reading.rank) :
    reading.resume token = reading.fail (.misplaced clause) token.span := by
  simp only [Reading.resume, hl]
  exact if_pos hr

theorem resume_opening (reading : Reading) {clause : Clause} (hl : token.lexeme = .clause clause)
    (hr : reading.rank < clause.rank) :
    reading.resume token = ⟨reading.children, clause.rank, .opening token.span clause⟩ := by
  simp only [Reading.resume, hl]
  exact if_neg (Nat.not_le.mpr hr)

theorem resume_stray (reading : Reading) (h : token.lexeme.isClause = false) :
    reading.resume token = reading.fail (.stray token.lexeme) token.span := by
  obtain ⟨lexeme, span⟩ := token
  cases lexeme with
  | clause clause => cases h
  | _ => rfl

theorem InTurns.resume (h : InTurns stop rest) (reading : Reading) (token : Token) :
    (rest.foldl step (reading.resume token)).finish stop =
      reading.children ++ (turns stop reading.rank (token :: rest)).flatMap Turn.nodes := by
  rw [turns_cons, List.flatMap_cons]
  obtain ⟨clause, hl, hr⟩ | ⟨clause, hl, hr⟩ | hn := Turn.next_cases reading.rank token
  · rw [resume_misplaced reading hl hr, h.fail, Turn.next_misplaced hl hr, Token.rank_of_clause hl,
      Nat.max_eq_left hr]
    rfl
  · rw [resume_opening reading hl hr, h, Turn.next_opening hl hr, Token.rank_of_clause hl,
      Nat.max_eq_right (Nat.le_of_lt hr)]
    rfl
  · rw [resume_stray reading hn, h.fail, Turn.next_stray hn, Token.rank_of_not_clause hn,
      Nat.max_zero, Turn.failed, untilClause_of_not_clause hn]
    rfl

theorem step_ended {reading : Reading} {nodes : List Tree}
    (ha : reading.stage.accept token = none) (hf : reading.stage.finish = .ok nodes) :
    reading.step token = (reading.add nodes .between).resume token := by
  simp only [step, ha, hf]

theorem step_failed {reading : Reading} {what : Expectation}
    (ha : reading.stage.accept token = none) (hf : reading.stage.finish = .error what) :
    reading.step token =
      let failed := reading.fail (.unmet what token.lexeme) token.span
      if token.lexeme.isClause then failed.resume token else failed := by
  simp only [step, ha, hf]

/-- Reading token by token and reading in turns lead to the same nodes. -/
theorem inTurns (stop : Nat) (tokens : List Token) : InTurns stop tokens := by
  induction tokens with
  | nil => exact inTurns_nil stop
  | cons token rest ih =>
    intro reading
    rw [List.foldl_cons]
    cases ha : reading.stage.accept token with
    | some accepted =>
      obtain ⟨nodes, next⟩ := accepted
      rw [step_accepted reading.children reading.rank ha, ih, Stage.turn_accepted ha]
      simp [Turn.prepend]
    | none =>
      cases hf : reading.stage.finish with
      | ok nodes =>
        rw [step_ended ha hf, ih.resume, Stage.turn_ended ha hf]
        simp [add]
      | error what =>
        rw [step_failed ha hf, Stage.turn_failed ha hf, Turn.failed]
        cases hc : token.lexeme.isClause with
        | true =>
          rw [if_pos rfl, ih.resume, untilClause_of_clause hc]
          simp [fail, add]
        | false =>
          rw [if_neg (by simp), ih.fail, untilClause_of_not_clause hc]
          rfl

end Reading

def projectionTurn (tokens : List Token) : Turn :=
  Stage.start.turn (stretch tokens).stop tokens

def clauseTurns (tokens : List Token) : List Turn :=
  turns (stretch tokens).stop 0 (tokens.drop (projectionTurn tokens).tokens.length)

theorem ofTokens_turns (tokens : List Token) :
    (ofTokens tokens).children =
      (projectionTurn tokens).nodes ++ (clauseTurns tokens).flatMap Turn.nodes := by
  rw [ofTokens_children, Reading.inTurns]
  rfl

theorem tokens_turns (tokens : List Token) :
    (projectionTurn tokens).tokens ++ (clauseTurns tokens).flatMap Turn.tokens = tokens := by
  have hp := (Stage.turn_tokens (stretch tokens).stop .start tokens).1
  rw [clauseTurns, turns_tokens]
  exact (List.prefix_append_drop hp).symm

end Tree
end EntityQuery
