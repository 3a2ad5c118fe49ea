import EntityQuery.Proofs.Tree.Nodes
import EntityQuery.Query.OfTree

/-! The query of a tree does not hang on the places of the nodes; only the error of an error
marker says where the marker stands. -/
namespace EntityQuery
variable {ρ σ : Type}

def CompileError.map (f : ρ → σ) : CompileError ρ → CompileError σ
  | unreadable message place => .unreadable message (f place)
  | malformed malformation => .malformed malformation
  | invalidCount text => .invalidCount text
  | incomplete part => .incomplete part

section Steps
variable {ε δ α β : Type} (f : ε → δ)

theorem mapError_map (g : α → β) (result : Except ε α) :
    (result.map g).mapError f = (result.mapError f).map g := by
  cases result <;> rfl

theorem mapError_bind (result : Except ε α) (k : α → Except ε β) :
    (result.bind k).mapError f = (result.mapError f).bind fun a => (k a).mapError f := by
  cases result <;> rfl

theorem foldlM_mapError {τ υ : Type} (g : τ → υ) {step : α → τ → Except ε α}
    {stepped : α → υ → Except δ α} (h : ∀ a t, stepped a (g t) = (step a t).mapError f)
    (init : α) (list : List τ) :
    (list.map g).foldlM stepped init = (list.foldlM step init).mapError f := by
  induction list generalizing init with
  | nil => rfl
  | cons t rest ih =>
    rw [List.map_cons, List.foldlM_cons, List.foldlM_cons, h]
    cases step init t with
    | error e => rfl
    | ok next => exact ih next

end Steps

variable (f : ρ → σ)

namespace Node

theorem misplaced_map (node : Node ρ) (position : Position) :
    (node.map f).misplaced position = (node.misplaced position).map f := by
  simp [misplaced, CompileError.map]

theorem fault_map (node : Node ρ) (position : Position) :
    (node.map f).fault position = (node.fault position).map f := by
  by_cases h : node.kind = .errorMarker <;>
    simp [fault, h, misplaced_map, CompileError.map]

theorem field_map (node : Node ρ) : (node.map f).field = node.field := by
  simp [field]

end Node

namespace Expression

theorem comparisonOf_map (text : Text) (children : List (Node ρ)) :
    comparisonOf text (children.map (Node.map f)) =
      (comparisonOf text children).mapError (CompileError.map f) := by
  unfold comparisonOf
  cases Operator.ofSymbol? text with
  | none => rfl
  | some op =>
    match children with
    | [] => rfl
    | [_] => rfl
    | _ :: _ :: _ :: _ => rfl
    | [field, value] =>
      cases hf : field.kind.isPlainName <;> cases hv : value.kind.isLiteral <;>
        simp [hf, hv, Node.misplaced_map, Node.field_map, Except.mapError]

theorem join_mapError (combine : Expression → Expression → Expression) (connective : NodeKind)
    (operands : List Expression) :
    (join combine connective operands : Except (CompileError ρ) Expression).mapError
      (CompileError.map f) = join combine connective operands := by
  match operands with
  | [] => rfl
  | [_] => rfl
  | _ :: _ :: _ => rfl

theorem ofNodes_map (nodes : List (Node ρ))
    (h : ∀ node ∈ nodes, ofNode (node.map f) = (ofNode node).mapError (CompileError.map f)) :
    ofNodes (nodes.map (Node.map f)) = (ofNodes nodes).mapError (CompileError.map f) := by
  induction nodes with
  | nil => rfl
  | cons node rest ih =>
    rw [List.map_cons, ofNodes, ofNodes, h node (by simp),
      ih fun n hn => h n (List.mem_cons_of_mem node hn)]
    cases ofNode node with
    | error e => rfl
    | ok first => exact (mapError_map (CompileError.map f) (first :: ·) (ofNodes rest)).symm

theorem ofNode_map (node : Node ρ) :
    ofNode (node.map f) = (ofNode node).mapError (CompileError.map f) := by
  induction node using Node.induct with
  | step kind text place children ih =>
    have hn := ofNodes_map f children ih
    have hj (combine connective) (operands : Except (CompileError ρ) (List Expression)) :
        (operands.mapError (CompileError.map f)).bind (join combine connective) =
          (operands.bind (join combine connective)).mapError (CompileError.map f) := by
      rw [mapError_bind]
      simp only [join_mapError]
    rw [Node.map_mk]
    cases kind with
    | and =>
      rw [ofNode, ofNode, hn, List.length_map, hj]
      split <;> rfl
    | or =>
      rw [ofNode, ofNode, hn, List.length_map, hj]
      split <;> rfl
    | not =>
      match children, ih with
      | [], _ => rfl
      | _ :: _ :: _, _ => rfl
      | [operand], ih =>
        rw [List.map_cons, List.map_nil, ofNode, ofNode, mapError_map, ih operand (by simp)]
    | group =>
      match children, ih with
      | [], _ => rfl
      | _ :: _ :: _, _ => rfl
      | [inner], ih => rw [List.map_cons, List.map_nil, ofNode, ofNode, ih inner (by simp)]
    | comparison => rw [ofNode, ofNode, comparisonOf_map]
    | _ => rfl

end Expression

namespace Draft

theorem addSource_map (draft : Draft) (children : List (Node ρ)) :
    draft.addSource (children.map (Node.map f)) =
      (draft.addSource children).mapError (CompileError.map f) := by
  match children with
  | [] => rfl
  | _ :: _ :: _ => rfl
  | [entity] =>
    cases h : entity.kind.isPlainName <;>
      simp [addSource, h, Node.misplaced_map, Except.mapError]

theorem addFilter_map (draft : Draft) (children : List (Node ρ)) :
    draft.addFilter (children.map (Node.map f)) =
      (draft.addFilter children).mapError (CompileError.map f) := by
  match children with
  | [] => rfl
  | _ :: _ :: _ => rfl
  | [condition] =>
    simp only [List.map_cons, List.map_nil, addFilter, Expression.ofNode_map]
    cases Expression.ofNode condition <;> rfl

theorem addOrdering_map (draft : Draft) (node : Node ρ) :
    draft.addOrdering (node.map f) = (draft.addOrdering node).mapError (CompileError.map f) := by
  simp only [addOrdering, Node.map_kind, Node.map_text, Node.field_map, Node.misplaced_map]
  split
  · rfl
  · split
    · cases Direction.ofWord? node.text <;> rfl
    · rfl

theorem countOf_map (clause : Clause) (children : List (Node ρ)) :
    countOf clause (children.map (Node.map f)) =
      (countOf clause children).mapError (CompileError.map f) := by
  match children with
  | [] => rfl
  | _ :: _ :: _ => rfl
  | [count] =>
    by_cases h : count.kind = .literal .integer
    · cases hc : Text.count? count.text.trim <;>
        simp [countOf, h, hc, Except.mapError, CompileError.map]
    · simp [countOf, h, Node.misplaced_map, Except.mapError]

theorem addPart_map (draft : Draft) (node : Node ρ) :
    draft.addPart (node.map f) = (draft.addPart node).mapError (CompileError.map f) := by
  cases h : node.kind.isName with
  | true => simp [addPart, h, Node.field_map, Except.mapError]
  | false =>
    unfold addPart
    rw [Node.map_kind, Node.map_children, if_neg (by simp [h]), if_neg (by simp [h])]
    split
    · exact addSource_map f draft node.children
    · exact addFilter_map f draft node.children
    · exact foldlM_mapError (CompileError.map f) (Node.map f) (addOrdering_map f) draft
        node.children
    · rw [countOf_map]
      cases countOf .limit node.children <;> rfl
    · rw [countOf_map]
      cases countOf .offset node.children <;> rfl
    · rw [Node.fault_map]
      rfl

theorem ofTree_map (tree : Node ρ) :
    ofTree (tree.map f) = (ofTree tree).mapError (CompileError.map f) := by
  by_cases h : tree.kind = .select
  · simp only [ofTree, Node.map_kind, Node.map_children, h, if_true]
    exact foldlM_mapError (CompileError.map f) (Node.map f) (addPart_map f) empty tree.children
  · simp [ofTree, h, Node.fault_map, Except.mapError]

end Draft

namespace Query

theorem ofParts_map (tree : Node ρ) :
    ofParts (tree.map f) = (ofParts tree).mapError (CompileError.map f) := by
  simp only [ofParts, Draft.ofTree_map, mapError_bind]
  cases Draft.ofTree tree with
  | error e => rfl
  | ok draft => cases hb : draft.build <;> simp [Except.mapError, Except.bind, hb, CompileError.map]

/-- With other places the query is the same, and an error is the same at its other place. -/
theorem ofTree_map (tree : Node ρ) :
    ofTree (tree.map f) = (ofTree tree).mapError (CompileError.map f) := by
  cases h : tree.firstMarker? with
  | some marker => simp [ofTree, Node.firstMarker?_map, h, Except.mapError, CompileError.map]
  | none => simp only [ofTree, Node.firstMarker?_map, h, Option.map_none, ofParts_map]

end Query
end EntityQuery
