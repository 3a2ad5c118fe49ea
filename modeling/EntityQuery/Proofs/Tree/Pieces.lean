import EntityQuery.Proofs.Tree.Acceptance
import EntityQuery.Proofs.Tree.Line

/-! What an unfinished part of a query is made of, in the order of the source: the nodes that are
complete and the keywords and brackets that wait for more. A token goes to the end of them, and what
is completed takes in the last of them. -/
namespace EntityQuery
open EntityQuery.Tree

structure Token.Placed (token : Token) (source : Text) : Prop where
  stands : token.span.Stands source
  spells : ∃ written, source.slice? token.span.start token.span.stop = some written ∧
    token.lexeme.Spells written

theorem Token.Placed.ofText {source : Text} {token : Token} (h : token ∈ Token.ofText source) :
    token.Placed source := by
  obtain ⟨before, written, after, rfl, hs, hf⟩ := (Token.layout_ofText source).written h
  rw [Nat.zero_add] at hs
  refine ⟨hs ▸ Span.stands_parts before written after, written, ?_, ?_⟩
  · rw [hs]
    exact Text.slice?_append before written after
  · obtain hw | ⟨hl, -⟩ := hf
    · exact hw.spells
    · exact hl ▸ Lexeme.spells_illegal written

theorem Token.Placed.literal {source : Text} {token : Token} (h : token.Placed source)
    {kind : LiteralKind} {text : Text} (hl : token.lexeme = .literal kind text) :
    source.slice? token.span.start token.span.stop = some text := by
  obtain ⟨written, hs, hw⟩ := h.spells
  rw [hl] at hw
  obtain ⟨rfl, -⟩ : text = written ∧ _ := hw
  exact hs

/-- A keyword or a bracket that waits, as a node. -/
def Tree.mark (keyword : Span) : Tree :=
  .leaf .select [] keyword

namespace Tree.Line
variable {source : Text} {lo hi : Nat} {before items : List Tree} {token : Token}

theorem snoc_mark (h : Line source lo items hi) (ht : token.Placed source)
    (hs : hi ≤ token.span.start) : Line source lo (items ++ [mark token.span]) token.span.stop :=
  h.snoc (Node.wellPlaced_leaf ht.stands (by simp)) hs

theorem skip (h : Line source lo items hi) (ht : token.Placed source)
    (hs : hi ≤ token.span.start) : Line source lo items token.span.stop :=
  h.weaken (Nat.le_refl lo) (hs.trans ht.stands.ordered)

theorem snoc_leaf (h : Line source lo items hi) (ht : token.Placed source)
    (hs : hi ≤ token.span.start) {kind : NodeKind} {text : Text}
    (hk : ∀ literal, kind ≠ .literal literal) :
    Line source lo (items ++ [.leaf kind text token.span]) token.span.stop :=
  h.snoc (Node.wellPlaced_leaf ht.stands fun literal he => absurd he (hk literal)) hs

theorem snoc_literal (h : Line source lo items hi) (ht : token.Placed source)
    (hs : hi ≤ token.span.start) {kind : LiteralKind} {text : Text}
    (hl : token.lexeme = .literal kind text) :
    Line source lo (items ++ [.leaf (.literal kind) text token.span]) token.span.stop :=
  h.snoc (Node.wellPlaced_leaf ht.stands fun _ _ => ht.literal hl) hs

theorem snoc_name (h : Line source lo items hi) (ht : token.Placed source)
    (hs : hi ≤ token.span.start) {name : Tree} (hn : token.name? = some name) :
    Line source lo (items ++ [name]) token.span.stop := by
  unfold Token.name? at hn
  split at hn
  · rename_i text hl
    obtain rfl := Option.some.inj hn
    exact h.snoc_literal ht hs hl
  · rename_i text hl
    obtain rfl := Option.some.inj hn
    exact h.snoc_literal ht hs hl
  · cases hn

theorem snoc_value (h : Line source lo items hi) (ht : token.Placed source)
    (hs : hi ≤ token.span.start) {value : Tree} (hv : token.value? = some value) :
    Line source lo (items ++ [value]) token.span.stop := by
  unfold Token.value? at hv
  split at hv
  · rename_i kind text hl
    obtain rfl := Option.some.inj hv
    exact h.snoc_literal ht hs hl
  · obtain rfl := Option.some.inj hv
    exact h.snoc_leaf ht hs (by simp)
  · cases hv

end Tree.Line

namespace Condition
variable {source : Text} {lo hi : Nat} {before : List Tree}

def Pending.items (pending : Pending) : List Tree :=
  pending.alternative.toList ++ (pending.conjunct.toList ++ (pending.negations.map mark).reverse)

def Enclosure.items : Enclosure → List Tree
  | [] => []
  | (opening, pending) :: outer => items outer ++ pending.items ++ [mark opening]

def Due.items (due : Due) : List Tree :=
  Enclosure.items due.enclosure ++ due.pending.items

def Joined.items (joined : Joined) : List Tree :=
  Enclosure.items joined.enclosure ++ (joined.alternative.toList ++ [joined.conjunct])

theorem negations_line {negations : List Span} {operand : Tree}
    (h : Line source lo (before ++ ((negations.map mark).reverse ++ [operand])) hi) :
    Line source lo (before ++ [negations.foldl (fun tree keyword => tree.negation keyword) operand])
      hi := by
  -- The list holds the last `NOT` first, and that one is nearest to the operand.
  induction negations generalizing operand with
  | nil => exact h
  | cons keyword rest ih =>
    rw [List.map_cons, List.reverse_cons, List.append_assoc, ← List.append_assoc] at h
    apply ih
    rw [← List.append_assoc]
    exact h.gather rfl rfl (List.sublist_cons_self _ _) (by simp)

theorem Pending.conjoin_line {pending : Pending} {operand : Tree}
    (h : Line source lo (before ++ (pending.items ++ [operand])) hi) :
    Line source lo (before ++ (pending.alternative.toList ++ [pending.conjoin operand])) hi := by
  obtain ⟨alternative, conjunct, negations⟩ := pending
  simp only [items, List.append_assoc] at h
  rw [← List.append_assoc, ← List.append_assoc] at h
  rw [← List.append_assoc]
  have hn := negations_line h
  cases conjunct with
  | none => simpa [conjoin] using hn
  | some left =>
    rw [Option.toList_some, List.append_assoc] at hn
    exact hn.gather rfl rfl (List.Sublist.refl _) (by simp)

theorem Due.take_line {due : Due} {operand : Tree}
    (h : Line source lo (before ++ (due.items ++ [operand])) hi) :
    Line source lo (before ++ (due.take operand).items) hi := by
  rw [Due.items, List.append_assoc, ← List.append_assoc] at h
  rw [Joined.items, ← List.append_assoc]
  exact Pending.conjoin_line h

theorem Joined.whole_line {joined : Joined} (h : Line source lo (before ++ joined.items) hi) :
    Line source lo (before ++ Enclosure.items joined.enclosure ++ [joined.whole]) hi := by
  obtain ⟨enclosure, alternative, conjunct⟩ := joined
  rw [Joined.items, ← List.append_assoc] at h
  cases alternative with
  | none => exact h
  | some left => exact h.gather rfl rfl (List.Sublist.refl _) (by simp)

theorem Due.items_negate (due : Due) (keyword : Span) :
    (due.negate keyword).items = due.items ++ [mark keyword] := by
  simp [items, negate, Pending.items]

theorem Due.items_enter (due : Due) (opening : Span) :
    (due.enter opening).items = due.items ++ [mark opening] := by
  simp [items, enter, Pending.items, Enclosure.items]

theorem Joined.items_and (joined : Joined) : joined.and.items = joined.items := by
  simp [items, Joined.and, Due.items, Pending.items]

theorem Joined.or_line {joined : Joined} (h : Line source lo (before ++ joined.items) hi) :
    Line source lo (before ++ joined.or.items) hi := by
  simpa [Joined.or, Due.items, Pending.items] using whole_line h

theorem Joined.leave_line {joined outer : Joined} {closing : Span}
    (h : Line source lo (before ++ joined.items ++ [mark closing]) hi)
    (hl : joined.leave? closing = some outer) :
    Line source lo (before ++ outer.items) hi := by
  obtain ⟨mid, hj, hm⟩ := Line.append_iff.mp h
  have hw := whole_line hj
  unfold leave? at hl
  split at hl
  · cases hl
  · rename_i opening pending rest he
    obtain rfl := Option.some.inj hl
    rw [he, Enclosure.items] at hw
    have hg := Line.append_iff.mpr ⟨mid, hw, hm⟩
    apply Due.take_line
    rw [Due.items]
    simp only [List.append_assoc] at hg ⊢
    rw [← List.append_assoc, ← List.append_assoc] at hg ⊢
    exact hg.gather rfl rfl (by simp) (by simp)

end Condition

namespace Tree
variable {source : Text} {lo hi : Nat} {token : Token} {nodes : List Tree} {stage next : Stage}

def NameList.items : NameList → List Tree
  | projection => []
  | ordering keyword => [mark keyword]

def Stage.items : Stage → List Tree
  | name list before => list.items ++ before
  | afterName list before last => list.items ++ (before ++ [last])
  | entity keyword => [mark keyword]
  | operand keyword due => [mark keyword] ++ due.items
  | comparator keyword due field => [mark keyword] ++ (due.items ++ [field])
  | value keyword due field _ => [mark keyword] ++ (due.items ++ [field])
  | joined keyword condition => [mark keyword] ++ condition.items
  | byWord keyword => [mark keyword]
  | count _ keyword => [mark keyword]
  | start => []
  | projection => []
  | between => []
  | skipping => []

theorem NameList.nodes_line {list : NameList} {names : List Tree} {last : Tree}
    (h : Line source lo (list.items ++ names) hi) (hl : names.getLast? = some last) :
    Line source lo (list.nodes names last) hi := by
  cases list with
  | projection => exact h
  | ordering keyword =>
    have he : ([mark keyword] ++ names).getLast? = some last := by
      rw [List.getLast?_append, hl]
      rfl
    exact h.gather_all rfl he (List.sublist_cons_self _ _) (by simp)

def NameList.keyword? : NameList → Option Span
  | projection => none
  | ordering keyword => some keyword

def Stage.keyword? : Stage → Option Span
  | name list _ => list.keyword?
  | afterName list _ _ => list.keyword?
  | entity keyword => some keyword
  | operand keyword _ => some keyword
  | comparator keyword _ _ => some keyword
  | value keyword _ _ _ => some keyword
  | joined keyword _ => some keyword
  | byWord keyword => some keyword
  | count _ keyword => some keyword
  | _ => none

/-- A keyword is still that of the unfinished part, or it is in the first node that is complete. -/
def Keeps (keyword : Span) (nodes : List Tree) (stage : Stage) : Prop :=
  match nodes with
  | [] => stage.keyword? = some keyword
  | node :: _ => node.place.start ≤ keyword.start ∧ keyword.stop ≤ node.place.stop

theorem keeps_clause {clause : Clause} {keyword opening last : Span} {children : List Tree}
    (hk : some opening = some keyword) :
    Keeps keyword [Tree.clause clause (opening.cover last) children] next := by
  obtain rfl := Option.some.inj hk
  exact ⟨Nat.min_le_left _ _, Nat.le_max_left _ _⟩

/-- A token that a part goes on with stands in line with what the part is made of. -/
theorem Stage.Accepts.line (ha : Accepts token stage nodes next)
    (h : Line source lo stage.items hi) (ht : token.Placed source) (hs : hi ≤ token.span.start) :
    Line source lo (nodes ++ next.items) token.span.stop := by
  cases ha with
  | star => exact h.snoc_leaf ht hs (by simp)
  | firstName hf => exact h.snoc_name ht hs hf
  | name hf =>
    have hn := h.snoc_name ht hs hf
    rwa [items, List.append_assoc] at hn
  | @direction keyword before last word direction hl hw =>
    have hn : Line source lo ((Stage.afterName (.ordering keyword) before last).items ++ [word])
        token.span.stop := by
      rw [hw]
      exact h.snoc_leaf ht hs (by simp)
    rw [items, List.append_assoc, List.append_assoc] at hn
    rw [items, List.append_nil]
    exact NameList.nodes_line hn (by simp)
  | entity hn =>
    exact (h.snoc_name ht hs hn).gather_all rfl rfl (List.sublist_cons_self _ _) (by simp)
  | not =>
    have hm := h.snoc_mark ht hs
    rwa [items, List.append_assoc, ← Condition.Due.items_negate] at hm
  | openParen =>
    have hm := h.snoc_mark ht hs
    rwa [items, List.append_assoc, ← Condition.Due.items_enter] at hm
  | field hf =>
    have hn := h.snoc_name ht hs hf
    rwa [items, List.append_assoc] at hn
  | @value keyword due field literal symbol hv =>
    have hl := h.snoc_value ht hs hv
    rw [items, ← List.append_assoc, List.append_assoc] at hl
    have hc : Line source lo ([mark keyword] ++ due.items ++ [comparison symbol field literal])
        token.span.stop :=
      hl.gather rfl rfl (List.Sublist.refl _) (by simp)
    rw [List.append_assoc] at hc
    exact Condition.Due.take_line hc
  | and =>
    have hn := h.skip ht hs
    rwa [items, ← Condition.Joined.items_and] at hn
  | or => exact Condition.Joined.or_line (h.skip ht hs)
  | closeParen hl ho => exact Condition.Joined.leave_line (h.snoc_mark ht hs) ho
  | integer hl =>
    have hn := h.snoc_literal ht hs hl
    exact hn.gather_all rfl rfl (List.sublist_cons_self _ _) (by simp)
  | _ => exact h.skip ht hs

theorem Stage.Accepts.keeps (ha : Accepts token stage nodes next) {keyword : Span}
    (hk : stage.keyword? = some keyword) : Keeps keyword nodes next := by
  cases ha with
  | star => cases hk
  | direction | entity | integer => exact keeps_clause hk
  | _ => exact hk

theorem Stage.finish_line (h : Line source lo stage.items hi) (hf : stage.finish = .ok nodes) :
    Line source lo (nodes ++ between.items) hi ∧
      ∀ keyword, stage.keyword? = some keyword → Keeps keyword nodes between := by
  rw [items, List.append_nil]
  cases finish_eq_ok_iff.mp hf with
  | @names list before last =>
    refine ⟨NameList.nodes_line h (by simp), fun keyword hk => ?_⟩
    cases list with
    | projection => cases hk
    | ordering opening => exact keeps_clause hk
  | condition he =>
    have hw := Condition.Joined.whole_line h
    rw [he, Condition.Enclosure.items, List.append_nil] at hw
    exact ⟨hw.gather_all rfl rfl (List.sublist_cons_self _ _) (by simp),
      fun _ hk => keeps_clause hk⟩
  | between => exact ⟨h, fun _ hk => hk⟩
  | skipping => exact ⟨h, fun _ hk => hk⟩

theorem Stage.items_opening (keyword : Span) (clause : Clause) :
    (opening keyword clause).items = [mark keyword] := by
  cases clause <;> rfl

theorem Stage.keyword?_opening (keyword : Span) (clause : Clause) :
    (opening keyword clause).keyword? = some keyword := by
  cases clause <;> rfl

end Tree
end EntityQuery
