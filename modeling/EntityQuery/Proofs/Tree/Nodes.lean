import Mathlib.Data.List.Basic
import EntityQuery.Tree

/-! All nodes of a tree, and the same tree with other places. Nothing but the place of a node is
lost when places are replaced. -/
namespace EntityQuery.Node
variable {ρ σ : Type}

/-- Induction on a tree, with the hypothesis for every child. -/
theorem induct {motive : Node ρ → Prop}
    (step : ∀ kind text place children, (∀ child ∈ children, motive child) →
      motive ⟨kind, text, place, children⟩) (node : Node ρ) : motive node := by
  refine @Node.rec ρ motive (fun nodes => ∀ child ∈ nodes, motive child) ?_ ?_ ?_ node
  · intro kind text place children ih
    exact step kind text place children ih
  · intro child h
    simp at h
  · intro head tail hh ht child h
    rcases List.mem_cons.mp h with rfl | h
    · exact hh
    · exact ht child h

mutual

def preorder (node : Node ρ) : List (Node ρ) :=
  match node with
  | ⟨kind, text, place, children⟩ => ⟨kind, text, place, children⟩ :: preorderOf children
termination_by structural node

def preorderOf (nodes : List (Node ρ)) : List (Node ρ) :=
  match nodes with
  | [] => []
  | node :: rest => preorder node ++ preorderOf rest
termination_by structural nodes

end

mutual

def map (f : ρ → σ) (node : Node ρ) : Node σ :=
  match node with
  | ⟨kind, text, place, children⟩ => ⟨kind, text, f place, mapOf f children⟩
termination_by structural node

def mapOf (f : ρ → σ) (nodes : List (Node ρ)) : List (Node σ) :=
  match nodes with
  | [] => []
  | node :: rest => map f node :: mapOf f rest
termination_by structural nodes

end

theorem preorderOf_eq (nodes : List (Node ρ)) : preorderOf nodes = nodes.flatMap preorder := by
  induction nodes with
  | nil => rfl
  | cons node rest ih => simp [preorderOf, ih]

theorem mapOf_eq (f : ρ → σ) (nodes : List (Node ρ)) : mapOf f nodes = nodes.map (map f) := by
  induction nodes with
  | nil => rfl
  | cons node rest ih => simp [mapOf, ih]

theorem preorder_eq (node : Node ρ) : node.preorder = node :: node.children.flatMap preorder := by
  cases node with
  | mk kind text place children => simp [preorder, preorderOf_eq]

@[simp] theorem map_mk (f : ρ → σ) (kind : NodeKind) (text : Text) (place : ρ)
    (children : List (Node ρ)) :
    map f ⟨kind, text, place, children⟩ = ⟨kind, text, f place, children.map (map f)⟩ := by
  simp [map, mapOf_eq]

@[simp] theorem map_kind (f : ρ → σ) (node : Node ρ) : (node.map f).kind = node.kind := by
  cases node; simp

@[simp] theorem map_text (f : ρ → σ) (node : Node ρ) : (node.map f).text = node.text := by
  cases node; simp

@[simp] theorem map_place (f : ρ → σ) (node : Node ρ) : (node.map f).place = f node.place := by
  cases node; simp

@[simp] theorem map_children (f : ρ → σ) (node : Node ρ) :
    (node.map f).children = node.children.map (map f) := by
  cases node; simp

@[simp] theorem leaf_kind (kind : NodeKind) (text : Text) (place : ρ) :
    (leaf kind text place).kind = kind := rfl

@[simp] theorem leaf_text (kind : NodeKind) (text : Text) (place : ρ) :
    (leaf kind text place).text = text := rfl

@[simp] theorem leaf_place (kind : NodeKind) (text : Text) (place : ρ) :
    (leaf kind text place).place = place := rfl

@[simp] theorem map_leaf (f : ρ → σ) (kind : NodeKind) (text : Text) (place : ρ) :
    (leaf kind text place).map f = leaf kind text (f place) := by
  simp [leaf]

theorem preorder_map (f : ρ → σ) (node : Node ρ) :
    (node.map f).preorder = node.preorder.map (map f) := by
  induction node using induct with
  | step kind text place children ih =>
    rw [preorder_eq, preorder_eq, List.map_cons, map_children, List.flatMap_map, List.map_flatMap]
    congr 1
    exact List.flatMap_congr fun child h => ih child h

theorem firstMarkerOf?_eq_find? (nodes : List (Node ρ))
    (h : ∀ node ∈ nodes, node.firstMarker? = node.preorder.find? (·.kind = .errorMarker)) :
    firstMarkerOf? nodes = (nodes.flatMap preorder).find? (·.kind = .errorMarker) := by
  induction nodes with
  | nil => rfl
  | cons node rest ih =>
    rw [firstMarkerOf?, h node (by simp), ih fun n hn => h n (List.mem_cons_of_mem node hn)]
    rw [List.flatMap_cons, List.find?_append]

theorem firstMarker?_eq_find? (node : Node ρ) :
    node.firstMarker? = node.preorder.find? (·.kind = .errorMarker) := by
  induction node using induct with
  | step kind text place children ih =>
    rw [firstMarker?, firstMarkerOf?_eq_find? children ih, preorder_eq, List.find?_cons]
    by_cases h : kind = .errorMarker <;> simp [h]

theorem firstMarker?_eq_none {node : Node ρ} :
    node.firstMarker? = none ↔ ∀ inner ∈ node.preorder, inner.kind ≠ .errorMarker := by
  simp [firstMarker?_eq_find?]

theorem firstMarker?_map (f : ρ → σ) (node : Node ρ) :
    (node.map f).firstMarker? = node.firstMarker?.map (map f) := by
  rw [firstMarker?_eq_find?, firstMarker?_eq_find?, preorder_map, List.find?_map]
  congr 2
  funext inner
  simp

end EntityQuery.Node
