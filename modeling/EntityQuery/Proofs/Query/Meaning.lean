import EntityQuery.Proofs.Grammar.Recognition
import EntityQuery.Proofs.Query.Places

/-! What a sentence says, and that its query says it. Conditions are compared by the comparisons
in them and by the truth they have for each assignment to these comparisons. -/
namespace EntityQuery

def Text.rowCount? (text : Text) : Option Nat :=
  count? text.trim

namespace Expression

def comparisons : Expression → List (Operator × Field × Value)
  | comparison op field value => [(op, field, value)]
  | and left right => left.comparisons ++ right.comparisons
  | or left right => left.comparisons ++ right.comparisons
  | not operand => operand.comparisons

/-- Whether the expression holds when comparison `n` holds as `truth n` says, the first comparison
being number `first`. -/
def eval (truth : Nat → Bool) (first : Nat) : Expression → Bool
  | comparison _ _ _ => truth first
  | and left right => left.eval truth first && right.eval truth (first + left.comparisons.length)
  | or left right => left.eval truth first || right.eval truth (first + left.comparisons.length)
  | not operand => !operand.eval truth first

end Expression

namespace Grammar

def Name.text : Name → Text
  | bare text => text
  | quoted text => text

def Name.meaning (name : Name) : Text :=
  Text.nameOf name.text

def Name.field (name : Name) : Field :=
  .named name.meaning

def Literal.value : Literal → Value
  | of kind text => .ofNode (.literal kind) text
  | null => .null

def Comparison.meaning (c : Comparison) : Operator × Field × Value :=
  (c.op, c.field.field, c.value.value)

def Phrase.comparisons {b : Binding} : Phrase b → List Comparison
  | comparison c => [c]
  | group inner => inner.comparisons
  | not operand => operand.comparisons
  | conjunct operand => operand.comparisons
  | and left right => left.comparisons ++ right.comparisons
  | alternative conjunction => conjunction.comparisons
  | or left right => left.comparisons ++ right.comparisons

def Phrase.eval {b : Binding} (truth : Nat → Bool) (first : Nat) : Phrase b → Bool
  | comparison _ => truth first
  | group inner => inner.eval truth first
  | not operand => !operand.eval truth first
  | conjunct operand => operand.eval truth first
  | and left right => left.eval truth first && right.eval truth (first + left.comparisons.length)
  | alternative conjunction => conjunction.eval truth first
  | or left right => left.eval truth first || right.eval truth (first + left.comparisons.length)

def Phrase.expression {b : Binding} : Phrase b → Expression
  | comparison c => .comparison c.op c.field.field c.value.value
  | group inner => inner.expression
  | not operand => .not operand.expression
  | conjunct operand => operand.expression
  | and left right => .and left.expression right.expression
  | alternative conjunction => conjunction.expression
  | or left right => .or left.expression right.expression

theorem Phrase.comparisons_expression {b : Binding} (w : Phrase b) :
    w.expression.comparisons = w.comparisons.map Comparison.meaning := by
  induction w with
  | comparison c => rfl
  | group inner ih => exact ih
  | not operand ih => exact ih
  | conjunct operand ih => exact ih
  | and left right ihl ihr =>
    simp [expression, comparisons, Expression.comparisons, ihl, ihr]
  | alternative conjunction ih => exact ih
  | or left right ihl ihr =>
    simp [expression, comparisons, Expression.comparisons, ihl, ihr]

def Names.fields (names : Names) : List Field :=
  (names.first :: names.more).map Name.field

def Projection.fields : Projection → List Field
  | all => [.named ['*']]
  | names list => list.fields

def Sentence.order (s : Sentence) : List Field :=
  s.ordering.elim [] fun ordering => ordering.names.fields

def Sentence.direction (s : Sentence) : Option Direction :=
  s.ordering.bind Ordering.direction

def Sentence.Countable (s : Sentence) : Prop :=
  ∀ text, s.limit = some text ∨ s.offset = some text → (Text.rowCount? text).isSome

def Sentence.draft (s : Sentence) : Draft :=
  ⟨s.projection.fields, s.source.map Name.meaning, s.filter.map Phrase.expression, s.order,
    s.direction, s.limit.bind Text.rowCount?, s.offset.bind Text.rowCount?⟩

def Part.add (draft : Draft) : Part → Draft
  | source entity => { draft with source := entity.meaning }
  | filter condition => { draft with filter := condition.expression }
  | ordering list =>
    { draft with
      order := draft.order ++ list.names.fields
      direction := list.direction.or draft.direction }
  | limit count => { draft with limit := Text.rowCount? count }
  | offset count => { draft with offset := Text.rowCount? count }

def Part.Countable : Part → Prop
  | limit count => (Text.rowCount? count).isSome
  | offset count => (Text.rowCount? count).isSome
  | _ => True

theorem Sentence.countable_parts {s : Sentence} :
    (∀ part ∈ s.parts, part.Countable) ↔ s.Countable := by
  obtain ⟨projection, source, filter, ordering, limit, offset⟩ := s
  simp only [Countable, parts, List.forall_mem_append]
  cases source <;> cases filter <;> cases ordering <;> cases limit <;> cases offset <;>
    simp [Part.Countable, or_imp, forall_and]

@[simp] theorem Name.tree_field (name : Name) : name.tree.field = name.field := by
  cases name <;> rfl

theorem Literal.tree_value (literal : Literal) :
    literal.tree.kind.isLiteral = true ∧
      Value.ofNode literal.tree.kind literal.tree.text = literal.value := by
  cases literal <;> exact ⟨rfl, rfl⟩

theorem Comparison.comparisonOf_tree (c : Comparison) :
    Expression.comparisonOf (ρ := Span) (Text.asciiLower c.op.symbol.toList)
      [c.field.tree, c.value.tree] = .ok (.comparison c.op c.field.field c.value.value) := by
  obtain ⟨hl, hv⟩ := c.value.tree_value
  simp [Expression.comparisonOf, ofSymbol?_symbol, hl, hv]

theorem Phrase.ofNode_tree {b : Binding} (w : Phrase b) :
    Expression.ofNode w.tree = .ok w.expression := by
  induction w with
  | comparison c => exact c.comparisonOf_tree
  | group inner ih => exact ih
  | not operand ih =>
    rw [tree, Tree.negation, Expression.ofNode, ih]
    rfl
  | conjunct operand ih => exact ih
  | and left right ihl ihr =>
    rw [tree, Tree.conjunction, Expression.ofNode, if_neg (by simp), Expression.ofNodes,
      Expression.ofNodes, ihl, ihr]
    rfl
  | alternative conjunction ih => exact ih
  | or left right ihl ihr =>
    rw [tree, Tree.disjunction, Expression.ofNode, if_neg (by simp), Expression.ofNodes,
      Expression.ofNodes, ihl, ihr]
    rfl

theorem addOrdering_name (draft : Draft) (name : Name) :
    draft.addOrdering name.tree = .ok { draft with order := draft.order ++ [name.field] } := by
  simp [Draft.addOrdering]

theorem addOrdering_direction (draft : Draft) (direction : Direction) :
    draft.addOrdering (directionTree direction) = .ok { draft with direction } := by
  have hw : Direction.ofWord? (directionTree direction).text = some direction :=
    ofWord?_keyword direction
  rw [Draft.addOrdering, hw]
  rfl

theorem foldlM_addOrdering (names : List Name) (draft : Draft) :
    (names.map Name.tree).foldlM Draft.addOrdering draft =
      .ok { draft with order := draft.order ++ names.map Name.field } := by
  induction names generalizing draft with
  | nil => simp [pure, Except.pure]
  | cons name rest ih =>
    rw [List.map_cons, List.foldlM_cons, addOrdering_name]
    simp only [bind, Except.bind, ih]
    simp

theorem countOf_count (clause : Clause) {text : Text} {n : Nat} (h : Text.rowCount? text = some n) :
    Draft.countOf clause [(.leaf (.literal .integer) text default : Tree)] = .ok n := by
  rw [Text.rowCount?] at h
  simp [Draft.countOf, h]

theorem addPart_limit (draft : Draft) (count : Text) :
    draft.addPart (Part.limit count).tree =
      (Draft.countOf .limit (Part.limit count).children).map fun n =>
        { draft with limit := some n } := by
  change (do return some (← Draft.countOf .limit (Part.limit count).children)).map _ = _
  cases Draft.countOf .limit (Part.limit count).children <;> rfl

theorem addPart_offset (draft : Draft) (count : Text) :
    draft.addPart (Part.offset count).tree =
      (Draft.countOf .offset (Part.offset count).children).map fun n =>
        { draft with offset := some n } := by
  change (do return some (← Draft.countOf .offset (Part.offset count).children)).map _ = _
  cases Draft.countOf .offset (Part.offset count).children <;> rfl

theorem Part.addPart_tree (part : Part) (h : part.Countable) (draft : Draft) :
    draft.addPart part.tree = .ok (part.add draft) := by
  cases part with
  | source entity =>
    cases entity <;> rfl
  | filter condition =>
    have hc : draft.addFilter [condition.tree] =
        .ok { draft with filter := condition.expression } := by
      simp only [Draft.addFilter, condition.ofNode_tree]
      rfl
    exact hc
  | ordering list =>
    have hn := foldlM_addOrdering (list.names.first :: list.names.more) draft
    change list.trees.foldlM Draft.addOrdering draft = _
    rw [Ordering.trees, List.foldlM_append, Names.trees, ← List.map_cons, hn]
    simp only [bind, Except.bind]
    cases hd : list.direction with
    | none => simp [add, hd, Names.fields, pure, Except.pure]
    | some direction => simp [add, hd, Names.fields, addOrdering_direction]
  | limit count =>
    obtain ⟨n, hn⟩ := Option.isSome_iff_exists.mp h
    have hc : Draft.countOf .limit (Part.limit count).children = .ok n := countOf_count .limit hn
    rw [addPart_limit, hc, add, hn]
    rfl
  | offset count =>
    obtain ⟨n, hn⟩ := Option.isSome_iff_exists.mp h
    have hc : Draft.countOf .offset (Part.offset count).children = .ok n := countOf_count .offset hn
    rw [addPart_offset, hc, add, hn]
    rfl

theorem countOf_isSome {clause : Clause} {text : Text} {n : Nat}
    (h : Draft.countOf clause [(.leaf (.literal .integer) text default : Tree)] = .ok n) :
    (Text.rowCount? text).isSome := by
  unfold Text.rowCount?
  cases hc : Text.count? text.trim with
  | some m => rfl
  | none => simp [Draft.countOf, hc] at h

theorem Part.countable_of_addPart {part : Part} {draft next : Draft}
    (h : draft.addPart part.tree = .ok next) : part.Countable := by
  cases part with
  | limit count =>
    rw [addPart_limit] at h
    cases hc : Draft.countOf .limit (Part.limit count).children with
    | ok n => exact countOf_isSome hc
    | error e => simp [hc, Except.map] at h
  | offset count =>
    rw [addPart_offset] at h
    cases hc : Draft.countOf .offset (Part.offset count).children with
    | ok n => exact countOf_isSome hc
    | error e => simp [hc, Except.map] at h
  | _ => trivial

end Grammar
end EntityQuery
