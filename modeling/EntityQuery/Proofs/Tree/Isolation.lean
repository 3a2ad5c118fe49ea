import Mathlib.Order.Basic
import EntityQuery.Proofs.Tree.Ranks

/-! What goes wrong before a clause keyword leaves no trace after it but the rank that has been
reached. A turn does not read past the next clause keyword, so wherever one stands a turn begins. -/
namespace EntityQuery
namespace Tree

def OpensClause (tokens : List Token) : Prop :=
  tokens.head?.any (fun token => token.lexeme.isClause) = true

instance (tokens : List Token) : Decidable (OpensClause tokens) :=
  inferInstanceAs (Decidable (_ = true))

def highestRank : List Token → Nat
  | [] => 0
  | token :: rest => max token.rank (highestRank rest)

theorem highestRank_append (before after : List Token) :
    highestRank (before ++ after) = max (highestRank before) (highestRank after) := by
  induction before with
  | nil => exact (Nat.zero_max _).symm
  | cons token rest ih => rw [List.cons_append, highestRank, highestRank, ih, Nat.max_assoc]

theorem NoneOpens.highestRank {tokens : List Token} (h : NoneOpens tokens) :
    highestRank tokens = 0 := by
  induction tokens with
  | nil => rfl
  | cons token rest ih =>
    obtain ⟨ht, hr⟩ := List.forall_mem_cons.mp h
    rw [Tree.highestRank, Token.rank_of_not_clause ht, ih hr]
    rfl

section Prefix
variable {before after taken : List Token}

theorem NoneOpens.prefix_before (hn : NoneOpens taken) (hp : taken <+: before ++ after)
    (h : OpensClause after) : taken <+: before := by
  rcases List.prefix_or_prefix_of_prefix hp (List.prefix_append before after) with hb | ⟨more, rfl⟩
  · exact hb
  · have hm : more <+: after := (List.prefix_append_right_inj before).mp hp
    cases more with
    | nil => rw [List.append_nil]
    | cons token rest =>
      obtain ⟨left, rfl⟩ := hm
      have ht := hn token (by simp)
      simp [OpensClause, ht] at h

/-- The turns that begin before a clause keyword end there, and the turns after it hang on nothing
but the rank that has been reached. -/
theorem turns_append (stop rank : Nat) (before after : List Token) (h : OpensClause after) :
    ∃ earlier, turns stop rank (before ++ after) =
        earlier ++ turns stop (max rank (highestRank before)) after ∧
      earlier.flatMap Turn.tokens = before := by
  -- A turn takes more than one token, so the induction is on the number of tokens.
  induction hl : before.length using Nat.strong_induction_on generalizing rank before with
  | h n ih =>
    cases before with
    | nil => exact ⟨[], by simp [highestRank], rfl⟩
    | cons token rest =>
      obtain ⟨taken, ht, hp, hn⟩ := Turn.next_tokens stop rank token (rest ++ after)
      obtain ⟨left, rfl⟩ := hn.prefix_before hp h
      have hs : left.length < n := by
        simp only [List.length_cons, List.length_append] at hl
        omega
      obtain ⟨earlier, he, hb⟩ := ih left.length hs (max rank token.rank) left rfl
      have hr : max (max rank token.rank) (highestRank left) =
          max rank (highestRank (token :: (taken ++ left))) := by
        rw [highestRank, highestRank_append, hn.highestRank, Nat.zero_max, Nat.max_assoc]
      refine ⟨Turn.next stop rank token (taken ++ left ++ after) :: earlier, ?_, ?_⟩
      · rw [List.cons_append, turns_cons, ht, List.length_cons, List.drop_succ_cons,
          List.append_assoc, List.drop_left, he, hr]
        rfl
      · rw [List.flatMap_cons, ht, hb]
        rfl

end Prefix

def turnsSince (n : Nat) : List Turn → List Turn
  | [] => []
  | turn :: rest =>
    if n = 0 then turn :: rest else turnsSince (n - turn.tokens.length) rest

theorem turnsSince_zero (turns : List Turn) : turnsSince 0 turns = turns := by
  cases turns <;> rfl

theorem turnsSince_append (earlier later : List Turn) (h : ∀ turn ∈ earlier, turn.tokens ≠ []) :
    turnsSince (earlier.flatMap Turn.tokens).length (earlier ++ later) = later := by
  induction earlier with
  | nil => exact turnsSince_zero later
  | cons turn rest ih =>
    obtain ⟨ht, hr⟩ := List.forall_mem_cons.mp h
    have hpos := List.length_pos_iff.mpr ht
    rw [List.flatMap_cons, List.length_append, List.cons_append, turnsSince, if_neg (by omega),
      Nat.add_sub_cancel_left, ih hr]

def clauseTurnsSince (n : Nat) (tokens : List Token) : List Turn :=
  turnsSince (n - (projectionTurn tokens).tokens.length) (clauseTurns tokens)

section Query
variable {before before' after : List Token}

theorem stretch_stop_append (before : List Token) (h : OpensClause after) :
    (stretch (before ++ after)).stop = (stretch after).stop := by
  cases after with
  | nil => cases h
  | cons token rest => simp [stretch, List.getLast?_append, List.getLast?_cons]

/-- What stands before a clause keyword is read by the projection and the turns that begin there;
it leaves its highest rank to the turns after that. -/
theorem clauseTurns_append (before : List Token) (h : OpensClause after) :
    ∃ earlier, clauseTurns (before ++ after) =
        earlier ++ turns (stretch after).stop (highestRank before) after ∧
      (projectionTurn (before ++ after)).tokens ++ earlier.flatMap Turn.tokens = before := by
  have hread : (projectionTurn (before ++ after)).tokens <+: before ++ after ∧
      NoneOpens (projectionTurn (before ++ after)).tokens := Stage.turn_tokens _ _ _
  rw [clauseTurns, stretch_stop_append before h]
  generalize (projectionTurn (before ++ after)).tokens = taken at hread ⊢
  obtain ⟨hp, hn⟩ := hread
  obtain ⟨left, rfl⟩ := hn.prefix_before hp h
  obtain ⟨earlier, he, hl⟩ := turns_append (stretch after).stop 0 left after h
  refine ⟨earlier, ?_, by rw [hl]⟩
  rw [List.append_assoc, List.drop_left, he, highestRank_append, hn.highestRank]

theorem clauseTurnsSince_append (before : List Token) (h : OpensClause after) :
    clauseTurnsSince before.length (before ++ after) =
      turns (stretch after).stop (highestRank before) after := by
  obtain ⟨earlier, he, hb⟩ := clauseTurns_append before h
  have hne : ∀ turn ∈ earlier, turn.tokens ≠ [] := by
    intro turn hm
    have hall := turns_tokens_ne_nil (stretch (before ++ after)).stop 0
      ((before ++ after).drop (projectionTurn (before ++ after)).tokens.length)
    rw [← clauseTurns, he] at hall
    exact hall turn (List.mem_append_left _ hm)
  have hl : before.length - (projectionTurn (before ++ after)).tokens.length =
      (earlier.flatMap Turn.tokens).length := by
    have hlen := congrArg List.length hb
    rw [List.length_append] at hlen
    omega
  rw [clauseTurnsSince, hl, he, turnsSince_append earlier _ hne]

/-- Every turn reads at least one token and together they read all. What is read from a clause
keyword on hangs, of all that stands before it, on the highest rank alone. Error markers stand right
below the root, and the clauses of a tree rise. -/
theorem recovery_isolates_clauses (tokens before before' after : List Token) :
    ((ofTokens tokens).children =
        (projectionTurn tokens).nodes ++ (clauseTurns tokens).flatMap Turn.nodes ∧
      (projectionTurn tokens).tokens ++ (clauseTurns tokens).flatMap Turn.tokens = tokens ∧
      ∀ turn ∈ clauseTurns tokens, turn.tokens ≠ []) ∧
    (OpensClause after → highestRank before = highestRank before' →
      clauseTurnsSince before.length (before ++ after) =
        clauseTurnsSince before'.length (before' ++ after) ∧
      (clauseTurnsSince before.length (before ++ after)).flatMap Turn.tokens = after ∧
      ∃ earlier, (ofTokens (before ++ after)).children =
        earlier ++ (clauseTurnsSince before.length (before ++ after)).flatMap Turn.nodes) ∧
    (ofTokens tokens).kind ≠ .errorMarker ∧
    (∀ child ∈ (ofTokens tokens).children,
      ∀ inner ∈ child.children.flatMap Node.preorder, inner.kind ≠ .errorMarker) ∧
    (clauseRanks (ofTokens tokens).preorder).Pairwise (· < ·) := by
  refine ⟨⟨ofTokens_turns tokens, tokens_turns tokens, turns_tokens_ne_nil _ _ _⟩, ?_, ?_, ?_, ?_⟩
  · intro h hr
    have hs := clauseTurnsSince_append before h
    obtain ⟨earlier, he, -⟩ := clauseTurns_append before h
    refine ⟨?_, ?_, (projectionTurn (before ++ after)).nodes ++ earlier.flatMap Turn.nodes, ?_⟩
    · rw [hs, clauseTurnsSince_append before' h, hr]
    · rw [hs, turns_tokens]
    · rw [ofTokens_turns, he, hs, List.flatMap_append, List.append_assoc]
  · exact NodeKind.noConfusion
  · intro child hc inner hi he
    have hk := ofTokens_inner tokens child hc inner hi
    rw [he] at hk
    cases hk
  · exact ofTokens_ranks tokens

theorem recovery_isolates_clauses_unclosed :
    clauseTurnsSince (Token.ofText "SELECT a, WHERE (x = AND".toList).length
        (Token.ofText "SELECT a, WHERE (x = AND".toList ++ Token.ofText "LIMIT x".toList) =
      clauseTurnsSince (Token.ofText "WHERE FROM OR".toList).length
        (Token.ofText "WHERE FROM OR".toList ++ Token.ofText "LIMIT x".toList) := by
  have h : OpensClause (Token.ofText "LIMIT x".toList) := by decide +kernel
  have hr : highestRank (Token.ofText "SELECT a, WHERE (x = AND".toList) =
      highestRank (Token.ofText "WHERE FROM OR".toList) := by decide +kernel
  exact ((recovery_isolates_clauses [] _ _ _).2.1 h hr).1

end Query
end Tree
end EntityQuery
