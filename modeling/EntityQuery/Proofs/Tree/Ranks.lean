import Mathlib.Data.List.Pairwise
import EntityQuery.Proofs.Grammar.Recovery
import EntityQuery.Proofs.Tree.Turns

/-! Which nodes stand where. Clauses and error markers stand right below the root and nowhere else.
A part gives at most the clause that its keyword opens, and a turn opens only clauses above the rank
that has been reached, so the clauses rise. -/
namespace EntityQuery
open EntityQuery.Tree

namespace NodeKind

def clauseRank? : NodeKind → Option Nat
  | .clause opened => some opened.rank
  | _ => none

def isInner : NodeKind → Bool
  | .select => false
  | .clause _ => false
  | .errorMarker => false
  | _ => true

theorem clauseRank?_of_inner {kind : NodeKind} (h : kind.isInner = true) :
    kind.clauseRank? = none := by
  cases kind with
  | clause opened => cases h
  | _ => rfl

end NodeKind

namespace Grammar

theorem Name.tree_inner (name : Name) : ∀ node ∈ name.tree.preorder, node.kind.isInner = true := by
  cases name <;> simp [tree, Node.leaf, Node.preorder_eq, NodeKind.isInner]

theorem Literal.tree_inner (literal : Literal) :
    ∀ node ∈ literal.tree.preorder, node.kind.isInner = true := by
  cases literal <;> simp [tree, Node.leaf, Node.preorder_eq, NodeKind.isInner]

theorem Phrase.tree_inner {b : Binding} (w : Phrase b) :
    ∀ node ∈ w.tree.preorder, node.kind.isInner = true := by
  induction w with
  | comparison c =>
    simp only [tree, Comparison.tree, Tree.comparison, Node.preorder_eq ⟨_, _, _, _⟩,
      List.flatMap_cons, List.flatMap_nil, List.append_nil, List.forall_mem_cons,
      List.forall_mem_append]
    exact ⟨rfl, c.field.tree_inner, c.value.tree_inner⟩
  | group inner ih =>
    simp only [tree, Tree.group, Node.preorder_eq ⟨_, _, _, _⟩, List.flatMap_cons,
      List.flatMap_nil, List.append_nil, List.forall_mem_cons]
    exact ⟨rfl, ih⟩
  | not operand ih =>
    simp only [tree, Tree.negation, Node.preorder_eq ⟨_, _, _, _⟩, List.flatMap_cons,
      List.flatMap_nil, List.append_nil, List.forall_mem_cons]
    exact ⟨rfl, ih⟩
  | conjunct operand ih => exact ih
  | and left right ihl ihr =>
    simp only [tree, Tree.conjunction, Node.preorder_eq ⟨_, _, _, _⟩, List.flatMap_cons,
      List.flatMap_nil, List.append_nil, List.forall_mem_cons, List.forall_mem_append]
    exact ⟨rfl, ihl, ihr⟩
  | alternative conjunction ih => exact ih
  | or left right ihl ihr =>
    simp only [tree, Tree.disjunction, Node.preorder_eq ⟨_, _, _, _⟩, List.flatMap_cons,
      List.flatMap_nil, List.append_nil, List.forall_mem_cons, List.forall_mem_append]
    exact ⟨rfl, ihl, ihr⟩

theorem Names.trees_inner (names : Names) :
    ∀ node ∈ names.trees.flatMap Node.preorder, node.kind.isInner = true := by
  intro node h
  obtain ⟨tree, ht, hn⟩ := List.mem_flatMap.mp h
  have hm : tree ∈ (names.first :: names.more).map Name.tree := ht
  obtain ⟨name, -, rfl⟩ := List.mem_map.mp hm
  exact name.tree_inner node hn

theorem Part.children_inner (part : Part) :
    ∀ node ∈ part.children.flatMap Node.preorder, node.kind.isInner = true := by
  cases part with
  | source entity => simpa [children] using entity.tree_inner
  | filter condition => simpa [children] using condition.tree_inner
  | ordering list =>
    have hd : ∀ node ∈ (list.direction.map directionTree).toList.flatMap Node.preorder,
        node.kind.isInner = true := by
      cases list.direction <;> simp [directionTree, Node.leaf, Node.preorder_eq, NodeKind.isInner]
    simp only [children, Ordering.trees, List.flatMap_append, List.forall_mem_append]
    exact ⟨list.names.trees_inner, hd⟩
  | limit count => simp [children, Node.leaf, Node.preorder_eq, NodeKind.isInner]
  | offset count => simp [children, Node.leaf, Node.preorder_eq, NodeKind.isInner]

theorem Piece.children_inner {piece : Tree} (h : Piece piece) :
    ∀ node ∈ piece.children.flatMap Node.preorder, node.kind.isInner = true := by
  cases h with
  | name name => cases name <;> simp [Name.tree, Node.leaf]
  | wildcard => simp [Node.leaf]
  | part part => exact part.children_inner
  | marker fault => simp [Tree.marker, Node.leaf]

end Grammar

namespace Tree

theorem ofTokens_inner (tokens : List Token) :
    ∀ child ∈ (ofTokens tokens).children, ∀ inner ∈ child.children.flatMap Node.preorder,
      inner.kind.isInner = true := by
  intro child hc inner hi
  have hm : child.unplaced ∈ (ofLexemes (tokens.map Token.lexeme)).children := by
    rw [← ofTokens_unplaced, Node.unplaced, Node.map_children]
    exact List.mem_map_of_mem hc
  have hp := (ofLexemes_pieces _ _ hm).children_inner inner.unplaced ?_
  · rwa [Node.unplaced, Node.map_kind] at hp
  · obtain ⟨node, hn, hin⟩ := List.mem_flatMap.mp hi
    rw [Node.unplaced, Node.map_children, List.flatMap_map]
    refine List.mem_flatMap.mpr ⟨node, hn, ?_⟩
    rw [Node.preorder_map]
    exact List.mem_map_of_mem hin

def clauseRanks (nodes : List Tree) : List Nat :=
  nodes.filterMap fun node => node.kind.clauseRank?

section Ranks
variable {stop rank : Nat} {token : Token} {nodes : List Tree} {stage next : Stage}

@[simp] theorem clauseRanks_nil : clauseRanks [] = [] := rfl

@[simp] theorem clauseRanks_append (before after : List Tree) :
    clauseRanks (before ++ after) = clauseRanks before ++ clauseRanks after :=
  List.filterMap_append ..

theorem clauseRanks_name {name : Tree} (h : token.name? = some name) : clauseRanks [name] = [] := by
  unfold Token.name? at h
  split at h <;> cases h <;> rfl

/-- The ranks of the clauses that a part has given or may still give. -/
def Stage.ranks : Stage → List Nat
  | name .projection before => clauseRanks before
  | name (.ordering _) _ => [Clause.ordering.rank]
  | afterName .projection before last => clauseRanks (before ++ [last])
  | afterName (.ordering _) _ _ => [Clause.ordering.rank]
  | entity _ => [Clause.source.rank]
  | operand _ _ => [Clause.filter.rank]
  | comparator _ _ _ => [Clause.filter.rank]
  | value _ _ _ _ => [Clause.filter.rank]
  | joined _ _ => [Clause.filter.rank]
  | byWord _ => [Clause.ordering.rank]
  | count paging _ => [paging.rank]
  | start => []
  | projection => []
  | between => []
  | skipping => []

theorem Stage.ranks_opening (keyword : Span) (clause : Clause) :
    (opening keyword clause).ranks = [clause.rank] := by
  cases clause <;> rfl

theorem Stage.ranks_afterName (list : NameList) (before : List Tree) (last : Tree) :
    (afterName list before last).ranks = (name list (before ++ [last])).ranks := by
  cases list <;> rfl

theorem Stage.Accepts.ranks (h : Accepts token stage nodes next) :
    (clauseRanks nodes ++ next.ranks).Sublist stage.ranks := by
  cases h with
  | firstName hf => simp [Stage.ranks, clauseRanks_name hf]
  | @name list before field hf => cases list <;> simp [Stage.ranks, clauseRanks_name hf]
  | comma => rw [clauseRanks_nil, List.nil_append, ranks_afterName]
  | _ => exact List.Sublist.refl _

theorem Stage.finish_ranks (h : stage.finish = .ok nodes) :
    (clauseRanks nodes).Sublist stage.ranks := by
  cases finish_eq_ok_iff.mp h with
  | @names list before last => cases list <;> exact List.Sublist.refl _
  | _ => exact List.Sublist.refl _

theorem Stage.turn_ranks (stop : Nat) (stage : Stage) (tokens : List Token) :
    (clauseRanks (stage.turn stop tokens).nodes).Sublist stage.ranks := by
  induction tokens generalizing stage with
  | nil =>
    unfold turn
    cases hf : stage.finish with
    | ok nodes => exact finish_ranks hf
    | error what => exact List.nil_sublist _
  | cons token rest ih =>
    cases ha : stage.accept token with
    | some accepted =>
      obtain ⟨nodes, next⟩ := accepted
      rw [turn_accepted ha, Turn.prepend, clauseRanks_append]
      have hr := (accept_eq_some_iff.mp ha).ranks
      exact ((List.append_sublist_append_left _).mpr (ih next)).trans hr
    | none =>
      cases hf : stage.finish with
      | ok nodes =>
        rw [turn_ended ha hf]
        exact finish_ranks hf
      | error what =>
        rw [turn_failed ha hf]
        exact List.nil_sublist _

/-- A turn gives a clause only if that raises the rank, and then no other. -/
theorem Turn.next_ranks (stop rank : Nat) (token : Token) (rest : List Token) :
    clauseRanks (Turn.next stop rank token rest).nodes = [] ∨
      rank < token.rank ∧ clauseRanks (Turn.next stop rank token rest).nodes = [token.rank] := by
  obtain ⟨clause, hl, hr⟩ | ⟨clause, hl, hr⟩ | hn := next_cases rank token
  · rw [next_misplaced hl hr]
    exact .inl rfl
  · have hs := Stage.turn_ranks stop (.opening token.span clause) rest
    rw [Stage.ranks_opening] at hs
    rw [next_opening hl hr, Token.rank_of_clause hl, prepend, List.nil_append]
    rcases List.sublist_singleton.mp hs with he | he
    · exact .inl he
    · exact .inr ⟨hr, he⟩
  · rw [next_stray hn]
    exact .inl rfl

theorem turns_ranks (stop rank : Nat) (tokens : List Token) :
    (rank :: clauseRanks ((turns stop rank tokens).flatMap Turn.nodes)).Pairwise (· < ·) := by
  induction rank, tokens using turns.induct stop with
  | case1 rank => simp
  | case2 rank token rest turn ih =>
    obtain ⟨habove, hrise⟩ := List.pairwise_cons.mp ih
    rw [turns_cons, List.flatMap_cons, clauseRanks_append]
    rcases Turn.next_ranks stop rank token rest with he | ⟨hr, he⟩
    · rw [he, List.nil_append]
      refine List.pairwise_cons.mpr ⟨fun r hm => ?_, hrise⟩
      exact (Nat.le_max_left _ _).trans_lt (habove r hm)
    · have hmax : max rank token.rank = token.rank := Nat.max_eq_right (Nat.le_of_lt hr)
      rw [hmax] at habove hrise
      rw [he, List.singleton_append, hmax]
      refine List.pairwise_cons.mpr ⟨fun r hm => ?_, List.pairwise_cons.mpr ⟨habove, hrise⟩⟩
      rcases List.mem_cons.mp hm with rfl | hm
      · exact hr
      · exact hr.trans (habove r hm)

end Ranks

theorem projectionTurn_ranks (tokens : List Token) :
    clauseRanks (projectionTurn tokens).nodes = [] :=
  List.sublist_nil.mp (Stage.turn_ranks _ .start tokens)

theorem ofTokens_children_ranks (tokens : List Token) :
    (clauseRanks (ofTokens tokens).children).Pairwise (· < ·) := by
  rw [ofTokens_turns, clauseRanks_append, projectionTurn_ranks, List.nil_append]
  exact (List.pairwise_cons.mp (turns_ranks _ _ _)).2

theorem clauseRanks_inner {nodes : List Tree} (h : ∀ node ∈ nodes, node.kind.isInner = true) :
    clauseRanks nodes = [] :=
  List.filterMap_eq_nil_iff.mpr fun node hn => NodeKind.clauseRank?_of_inner (h node hn)

theorem clauseRanks_flatMap {nodes : List Tree}
    (h : ∀ node ∈ nodes, ∀ inner ∈ node.children.flatMap Node.preorder,
      inner.kind.isInner = true) :
    clauseRanks (nodes.flatMap Node.preorder) = clauseRanks nodes := by
  induction nodes with
  | nil => rfl
  | cons node rest ih =>
    obtain ⟨hn, hr⟩ := List.forall_mem_cons.mp h
    rw [List.flatMap_cons, Node.preorder_eq, clauseRanks_append, ih hr, ← List.singleton_append,
      clauseRanks_append, clauseRanks_inner hn, List.append_nil, ← clauseRanks_append]
    rfl

theorem ofTokens_ranks (tokens : List Token) :
    (clauseRanks (ofTokens tokens).preorder).Pairwise (· < ·) := by
  have hroot : clauseRanks [ofTokens tokens] = [] := rfl
  rw [Node.preorder_eq, ← List.singleton_append, clauseRanks_append, hroot,
    clauseRanks_flatMap (ofTokens_inner tokens), List.nil_append]
  exact ofTokens_children_ranks tokens

end Tree
end EntityQuery
