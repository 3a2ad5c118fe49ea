import EntityQuery.Proofs.Grammar
import EntityQuery.Proofs.Tree.Places

/-! The tree of a phrase. Reading a tree back gives the lexemes of the phrase, and no operand in
it would need brackets that are not there. -/
namespace EntityQuery

namespace Node
variable {ρ : Type}

def listed : List (NodeKind × List Lexeme) → List Lexeme
  | [] => []
  | (_, first) :: rest =>
    first ++ rest.flatMap fun (kind, lexemes) =>
      if kind.isName then .comma :: lexemes else lexemes

def written (kind : NodeKind) (text : Text) (children : List (NodeKind × List Lexeme)) :
    List Lexeme :=
  match kind, children with
  | .select, parts => .select :: listed parts
  | .clause .ordering, parts => .clause .ordering :: .byWord :: listed parts
  | .clause clause, parts => .clause clause :: listed parts
  | .and, [(_, left), (_, right)] => left ++ .and :: right
  | .or, [(_, left), (_, right)] => left ++ .or :: right
  | .not, [(_, operand)] => .not :: operand
  | .group, [(_, inner)] => .openParen :: inner ++ [.closeParen]
  | .comparison, [(_, field), (_, value)] =>
    field ++ ((Operator.ofSymbol? text).map .comparator).toList ++ value
  | .direction, _ => ((Direction.ofWord? text).map .direction).toList
  | .literal kind, _ => [.literal kind text]
  | .null, _ => [.null]
  | .wildcard, _ => [.star]
  | _, _ => [.illegal text]

mutual

/-- What a tree says when it is read in order. -/
def lexemes (node : Node ρ) : List Lexeme :=
  match node with
  | ⟨kind, text, _, children⟩ => written kind text (partsOf children)
termination_by structural node

def partsOf (nodes : List (Node ρ)) : List (NodeKind × List Lexeme) :=
  match nodes with
  | [] => []
  | node :: rest => (node.kind, lexemes node) :: partsOf rest
termination_by structural nodes

end

/-- Whether the operands of a node bind tightly enough to stand there without brackets. -/
def Grouped (node : Node ρ) : Prop :=
  match node.kind, node.children.map Node.kind with
  | .and, [left, right] => left ≠ .or ∧ right ≠ .and ∧ right ≠ .or
  | .or, [_, right] => right ≠ .or
  | .not, [operand] => operand ≠ .and ∧ operand ≠ .or
  | .and, _ => False
  | .or, _ => False
  | .not, _ => False
  | _, _ => True

theorem partsOf_eq (nodes : List (Node ρ)) :
    partsOf nodes = nodes.map fun node => (node.kind, node.lexemes) := by
  induction nodes with
  | nil => rfl
  | cons node rest ih => simp [partsOf, ih]

theorem lexemes_mk (kind : NodeKind) (text : Text) (place : ρ) (children : List (Node ρ)) :
    lexemes ⟨kind, text, place, children⟩ =
      written kind text (children.map fun node => (node.kind, node.lexemes)) := by
  simp [lexemes, partsOf_eq]

theorem lexemes_map {σ : Type} (f : ρ → σ) (node : Node ρ) :
    (node.map f).lexemes = node.lexemes := by
  induction node using induct with
  | step kind text place children ih =>
    rw [map_mk, lexemes_mk, lexemes_mk, List.map_map]
    congr 1
    refine List.map_congr_left fun child h => ?_
    simp [ih child h]

theorem grouped_map {σ : Type} (f : ρ → σ) (node : Node ρ) :
    (node.map f).Grouped ↔ node.Grouped := by
  have h : (node.map f).children.map kind = node.children.map kind := by simp
  simp only [Grouped, map_kind, h]

theorem listed_append (before after : List (NodeKind × List Lexeme)) (h : before ≠ []) :
    listed (before ++ after) = listed before ++ after.flatMap fun (kind, lexemes) =>
      if kind.isName then .comma :: lexemes else lexemes := by
  cases before with
  | nil => exact absurd rfl h
  | cons first rest => simp [listed, List.append_assoc]

end Node

namespace Grammar

def Name.tree : Name → Tree
  | bare text => .leaf (.literal .identifier) text default
  | quoted text => .leaf (.literal .string) text default

def Literal.tree : Literal → Tree
  | of kind text => .leaf (.literal kind) text default
  | null => .leaf .null "NULL".toList default

def Comparison.tree (c : Comparison) : Tree :=
  .comparison (Text.asciiLower c.op.symbol.toList) c.field.tree c.value.tree

def Phrase.tree {b : Binding} : Phrase b → Tree
  | comparison c => c.tree
  | group inner => inner.tree.group default default
  | not operand => operand.tree.negation default
  | conjunct operand => operand.tree
  | and left right => left.tree.conjunction right.tree
  | alternative conjunction => conjunction.tree
  | or left right => left.tree.disjunction right.tree

def Names.trees (names : Names) : List Tree :=
  names.first.tree :: names.more.map Name.tree

def Projection.trees : Projection → List Tree
  | all => [.leaf .wildcard ['*'] default]
  | names list => list.trees

def directionTree (direction : Direction) : Tree :=
  .leaf .direction direction.keyword.toList default

def Ordering.trees (ordering : Ordering) : List Tree :=
  ordering.names.trees ++ (ordering.direction.map directionTree).toList

def Part.children : Part → List Tree
  | source entity => [entity.tree]
  | filter condition => [condition.tree]
  | ordering list => list.trees
  | limit count => [.leaf (.literal .integer) count default]
  | offset count => [.leaf (.literal .integer) count default]

def Part.tree (part : Part) : Tree :=
  .clause part.clause default part.children

def Sentence.trees (s : Sentence) : List Tree :=
  s.projection.trees ++ s.parts.map Part.tree

def Sentence.tree (s : Sentence) : Tree :=
  ⟨.select, "SELECT".toList, default, s.trees⟩

@[simp] theorem Name.tree_place (name : Name) : name.tree.place = default := by
  cases name <;> rfl

@[simp] theorem Literal.tree_place (literal : Literal) : literal.tree.place = default := by
  cases literal <;> rfl

@[simp] theorem Phrase.tree_place {b : Binding} (w : Phrase b) : w.tree.place = default := by
  induction w with
  | comparison c => simp [tree, Comparison.tree, Tree.comparison, Span.cover_default]
  | group inner ih => simp [tree, Tree.group, Span.cover_default]
  | not operand ih => simp [tree, Tree.negation, ih, Span.cover_default]
  | conjunct operand ih => exact ih
  | and left right ihl ihr => simp [tree, Tree.conjunction, ihl, ihr, Span.cover_default]
  | alternative conjunction ih => exact ih
  | or left right ihl ihr => simp [tree, Tree.disjunction, ihl, ihr, Span.cover_default]

@[simp] theorem Name.tree_isPlainName (name : Name) : name.tree.kind.isPlainName = true := by
  cases name <;> rfl

@[simp] theorem Name.tree_lexemes (name : Name) : name.tree.lexemes = [name.lexeme] := by
  cases name <;> rfl

@[simp] theorem Literal.tree_lexemes (literal : Literal) :
    literal.tree.lexemes = [literal.lexeme] := by
  cases literal <;> rfl

theorem ofSymbol?_symbol (op : Operator) :
    Operator.ofSymbol? (Text.asciiLower op.symbol.toList) = some op := by
  cases op <;> decide +kernel

theorem ofWord?_keyword (direction : Direction) :
    Direction.ofWord? direction.keyword.toList = some direction := by
  cases direction <;> decide +kernel

theorem Phrase.tree_lexemes {b : Binding} (w : Phrase b) : w.tree.lexemes = w.lexemes := by
  induction w with
  | comparison c =>
    simp [tree, Comparison.tree, Tree.comparison, Node.lexemes_mk, Node.written,
      ofSymbol?_symbol, lexemes, Comparison.lexemes]
  | group inner ih => simp [tree, Tree.group, Node.lexemes_mk, Node.written, lexemes, ih]
  | not operand ih => simp [tree, Tree.negation, Node.lexemes_mk, Node.written, lexemes, ih]
  | conjunct operand ih => exact ih
  | and left right ihl ihr =>
    simp [tree, Tree.conjunction, Node.lexemes_mk, Node.written, lexemes, ihl, ihr]
  | alternative conjunction ih => exact ih
  | or left right ihl ihr =>
    simp [tree, Tree.disjunction, Node.lexemes_mk, Node.written, lexemes, ihl, ihr]

theorem Name.tree_isName (name : Name) : name.tree.kind.isName = true := by
  cases name <;> rfl

theorem Names.listed_trees (names : Names) :
    Node.listed (names.trees.map fun node => (node.kind, node.lexemes)) = names.lexemes := by
  simp [trees, lexemes, Node.listed, List.flatMap_map, Name.tree_isName]

theorem Ordering.listed_trees (ordering : Ordering) :
    Node.listed (ordering.trees.map fun node => (node.kind, node.lexemes)) = ordering.lexemes := by
  have hn := ordering.names.listed_trees
  cases hd : ordering.direction with
  | none => simp [trees, lexemes, hd, hn]
  | some direction =>
    have hw : (directionTree direction).lexemes = [.direction direction] := by
      simp [directionTree, Node.leaf, Node.lexemes_mk, Node.written, ofWord?_keyword]
    rw [trees, List.map_append, Node.listed_append _ _ (by simp [Names.trees]), hn]
    simp [lexemes, hd, hw]
    rfl

theorem Part.tree_lexemes (part : Part) : part.tree.lexemes = part.lexemes := by
  cases part with
  | source entity =>
    simp [tree, Tree.clause, children, clause, Node.lexemes_mk, Node.written, Node.listed, lexemes]
  | filter condition =>
    simp [tree, Tree.clause, children, clause, Node.lexemes_mk, Node.written, Node.listed, lexemes,
      condition.tree_lexemes]
  | ordering list =>
    simp only [tree, Tree.clause, children, clause, Node.lexemes_mk, Node.written,
      list.listed_trees, lexemes]
  | limit count => rfl
  | offset count => rfl

theorem Projection.listed_trees (projection : Projection) :
    Node.listed (projection.trees.map fun node => (node.kind, node.lexemes)) =
      projection.lexemes := by
  cases projection with
  | all => rfl
  | names list => exact list.listed_trees

theorem Sentence.tree_lexemes (s : Sentence) : s.tree.lexemes = s.lexemes := by
  have hp := s.projection.listed_trees
  have hc (part : Part) : part.tree.kind.isName = false := rfl
  rw [tree, Node.lexemes_mk, Node.written, trees, List.map_append, Node.listed_append, hp]
  · simp [lexemes, List.flatMap_map, hc, Part.tree_lexemes]
  · cases s.projection <;> simp [Projection.trees, Names.trees]

theorem Phrase.operand_kind (w : Phrase .operand) : w.tree.kind ≠ .and ∧ w.tree.kind ≠ .or := by
  cases w <;> exact ⟨nofun, nofun⟩

theorem Phrase.conjunction_kind (w : Phrase .conjunction) : w.tree.kind ≠ .or := by
  cases w with
  | conjunct operand => exact operand.operand_kind.2
  | and left right => exact nofun

theorem Name.tree_grouped (name : Name) : ∀ node ∈ name.tree.preorder, node.Grouped := by
  cases name <;> simp [tree, Node.leaf, Node.preorder_eq, Node.Grouped]

theorem Literal.tree_grouped (literal : Literal) :
    ∀ node ∈ literal.tree.preorder, node.Grouped := by
  cases literal <;> simp [tree, Node.leaf, Node.preorder_eq, Node.Grouped]

/-- An operand that binds too loosely for its place stands in a group. -/
theorem Phrase.tree_grouped {b : Binding} (w : Phrase b) :
    ∀ node ∈ w.tree.preorder, node.Grouped := by
  induction w with
  | comparison c =>
    have hf := c.field.tree_grouped
    have hv := c.value.tree_grouped
    simp only [tree, Comparison.tree, Tree.comparison, Node.preorder_eq ⟨_, _, _, _⟩,
      List.flatMap_cons, List.flatMap_nil, List.append_nil, List.forall_mem_cons,
      List.forall_mem_append]
    exact ⟨by simp [Node.Grouped], hf, hv⟩
  | group inner ih =>
    simp only [tree, Tree.group, Node.preorder_eq ⟨_, _, _, _⟩, List.flatMap_cons,
      List.flatMap_nil, List.append_nil, List.forall_mem_cons]
    exact ⟨by simp [Node.Grouped], ih⟩
  | not operand ih =>
    simp only [tree, Tree.negation, Node.preorder_eq ⟨_, _, _, _⟩, List.flatMap_cons,
      List.flatMap_nil, List.append_nil, List.forall_mem_cons]
    exact ⟨operand.operand_kind, ih⟩
  | conjunct operand ih => exact ih
  | and left right ihl ihr =>
    simp only [tree, Tree.conjunction, Node.preorder_eq ⟨_, _, _, _⟩, List.flatMap_cons,
      List.flatMap_nil, List.append_nil, List.forall_mem_cons, List.forall_mem_append]
    exact ⟨⟨left.conjunction_kind, right.operand_kind⟩, ihl, ihr⟩
  | alternative conjunction ih => exact ih
  | or left right ihl ihr =>
    simp only [tree, Tree.disjunction, Node.preorder_eq ⟨_, _, _, _⟩, List.flatMap_cons,
      List.flatMap_nil, List.append_nil, List.forall_mem_cons, List.forall_mem_append]
    exact ⟨right.conjunction_kind, ihl, ihr⟩

theorem Names.trees_grouped (names : Names) :
    ∀ node ∈ names.trees.flatMap Node.preorder, node.Grouped := by
  intro node h
  obtain ⟨tree, ht, hn⟩ := List.mem_flatMap.mp h
  rcases List.mem_cons.mp ht with rfl | ht
  · exact names.first.tree_grouped node hn
  · obtain ⟨name, -, rfl⟩ := List.mem_map.mp ht
    exact name.tree_grouped node hn

theorem Projection.trees_grouped (projection : Projection) :
    ∀ node ∈ projection.trees.flatMap Node.preorder, node.Grouped := by
  cases projection with
  | all => simp [trees, Node.leaf, Node.preorder_eq, Node.Grouped]
  | names list => exact list.trees_grouped

theorem Part.tree_grouped (part : Part) : ∀ node ∈ part.tree.preorder, node.Grouped := by
  have hroot : part.tree.Grouped := by simp [tree, Tree.clause, Node.Grouped]
  suffices h : ∀ node ∈ part.children.flatMap Node.preorder, node.Grouped by
    rw [Node.preorder_eq]
    exact List.forall_mem_cons.mpr ⟨hroot, h⟩
  cases part with
  | source entity => simpa [children] using entity.tree_grouped
  | filter condition => simpa [children] using condition.tree_grouped
  | ordering list =>
    have hd : ∀ node ∈ (list.direction.map directionTree).toList.flatMap Node.preorder,
        node.Grouped := by
      cases list.direction <;> simp [directionTree, Node.leaf, Node.preorder_eq, Node.Grouped]
    simp only [children, Ordering.trees, List.flatMap_append, List.forall_mem_append]
    exact ⟨list.names.trees_grouped, hd⟩
  | limit count => simp [children, Node.leaf, Node.preorder_eq, Node.Grouped]
  | offset count => simp [children, Node.leaf, Node.preorder_eq, Node.Grouped]

theorem Sentence.tree_grouped (s : Sentence) : ∀ node ∈ s.tree.preorder, node.Grouped := by
  have hroot : s.tree.Grouped := by simp [tree, Node.Grouped]
  rw [Node.preorder_eq]
  refine List.forall_mem_cons.mpr ⟨hroot, ?_⟩
  simp only [tree, trees, List.flatMap_append, List.forall_mem_append]
  refine ⟨s.projection.trees_grouped, fun node h => ?_⟩
  obtain ⟨tree, ht, hn⟩ := List.mem_flatMap.mp h
  obtain ⟨part, -, rfl⟩ := List.mem_map.mp ht
  exact part.tree_grouped node hn

theorem Name.tree_marker (name : Name) : name.tree.firstMarker? = none := by
  cases name <;> rfl

theorem Literal.tree_marker (literal : Literal) : literal.tree.firstMarker? = none := by
  cases literal <;> rfl

theorem Phrase.tree_marker {b : Binding} (w : Phrase b) : w.tree.firstMarker? = none := by
  induction w with
  | comparison c =>
    simp [tree, Comparison.tree, Tree.comparison, Node.firstMarker?, Node.firstMarkerOf?,
      c.field.tree_marker, c.value.tree_marker]
  | group inner ih => simp [tree, Tree.group, Node.firstMarker?, Node.firstMarkerOf?, ih]
  | not operand ih => simp [tree, Tree.negation, Node.firstMarker?, Node.firstMarkerOf?, ih]
  | conjunct operand ih => exact ih
  | and left right ihl ihr =>
    simp [tree, Tree.conjunction, Node.firstMarker?, Node.firstMarkerOf?, ihl, ihr]
  | alternative conjunction ih => exact ih
  | or left right ihl ihr =>
    simp [tree, Tree.disjunction, Node.firstMarker?, Node.firstMarkerOf?, ihl, ihr]

theorem firstMarkerOf?_none {nodes : List Tree} (h : ∀ node ∈ nodes, node.firstMarker? = none) :
    Node.firstMarkerOf? nodes = none := by
  induction nodes with
  | nil => rfl
  | cons node rest ih =>
    rw [Node.firstMarkerOf?, h node (by simp), ih fun n hn => h n (List.mem_cons_of_mem node hn)]
    rfl

theorem Names.trees_marker (names : Names) : ∀ node ∈ names.trees, node.firstMarker? = none := by
  intro node h
  rcases List.mem_cons.mp h with rfl | h
  · exact names.first.tree_marker
  · obtain ⟨name, -, rfl⟩ := List.mem_map.mp h
    exact name.tree_marker

theorem Part.tree_marker (part : Part) : part.tree.firstMarker? = none := by
  have h : ∀ node ∈ part.children, node.firstMarker? = none := by
    cases part with
    | source entity => simpa [children] using entity.tree_marker
    | filter condition => simpa [children] using condition.tree_marker
    | ordering list =>
      simp only [children, Ordering.trees, List.forall_mem_append]
      refine ⟨list.names.trees_marker, ?_⟩
      cases list.direction <;> simp [directionTree, Node.leaf, Node.firstMarker?,
        Node.firstMarkerOf?]
    | limit count => simp [children, Node.leaf, Node.firstMarker?, Node.firstMarkerOf?]
    | offset count => simp [children, Node.leaf, Node.firstMarker?, Node.firstMarkerOf?]
  simp [tree, Tree.clause, Node.firstMarker?, firstMarkerOf?_none h]

theorem Sentence.tree_marker (s : Sentence) : s.tree.firstMarker? = none := by
  have h : ∀ node ∈ s.trees, node.firstMarker? = none := by
    simp only [trees, List.forall_mem_append]
    refine ⟨?_, fun node hn => ?_⟩
    · cases s.projection with
      | all => simp [Projection.trees, Node.leaf, Node.firstMarker?, Node.firstMarkerOf?]
      | names list => exact list.trees_marker
    · obtain ⟨part, -, rfl⟩ := List.mem_map.mp hn
      exact part.tree_marker
  simp [tree, Node.firstMarker?, firstMarkerOf?_none h]

end Grammar
end EntityQuery
