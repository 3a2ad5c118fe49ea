import Mathlib.Data.List.Forall2
import Mathlib.Logic.Relation
import EntityQuery.Proofs.Query.Connectives
import EntityQuery.Proofs.Tree.Nodes

/-! Brackets and nesting leave no trace. A bracket around one condition may be taken away, and a
connective with many operands may be nested to the left, anywhere in a tree and as often as one
likes: the query is the same, or else the error. -/
namespace EntityQuery
variable {ρ : Type}

def NodeKind.holdsConditions : NodeKind → Bool
  | .clause .filter => true
  | .and => true
  | .or => true
  | .not => true
  | .group => true
  | _ => false

namespace Node

/-- Nodes of a connective with two operands each, nested to the left over all the operands. -/
inductive LeftNested (connective : NodeKind) : List (Node ρ) → Node ρ → Prop where
  | pair (text : Text) (place : ρ) (first second : Node ρ) :
    LeftNested connective [first, second] ⟨connective, text, place, [first, second]⟩
  | more {operands : List (Node ρ)} {left : Node ρ} (h : LeftNested connective operands left)
      (text : Text) (place : ρ) (last : Node ρ) :
    LeftNested connective (operands ++ [last]) ⟨connective, text, place, [left, last]⟩

/-- A connective with three or more operands, and the same nested to the left. -/
def Nests (flat nested : Node ρ) : Prop :=
  (flat.kind = .and ∨ flat.kind = .or) ∧ 3 ≤ flat.children.length ∧
    LeftNested flat.kind flat.children nested

inductive Regrouped : Node ρ → Node ρ → Prop where
  | bracket (text : Text) (place : ρ) (inner : Node ρ) :
    Regrouped ⟨.group, text, place, [inner]⟩ inner
  | nested {flat nested : Node ρ} (h : Nests flat nested) : Regrouped flat nested

/-- A tree in which one place is written in the other way. Where no condition is expected, a nested
connective keeps its text, which the error for it shows. -/
inductive Regroups : Node ρ → Node ρ → Prop where
  | condition {kind : NodeKind} {text : Text} {place : ρ} {before after : List (Node ρ)}
      {child other : Node ρ} (hk : kind.holdsConditions = true) (h : Regrouped child other) :
    Regroups ⟨kind, text, place, before ++ child :: after⟩
      ⟨kind, text, place, before ++ other :: after⟩
  | nested {flat nested : Node ρ} (h : Nests flat nested) (ht : nested.text = flat.text) :
    Regroups flat nested
  | inside {kind : NodeKind} {text : Text} {place : ρ} {before after : List (Node ρ)}
      {child other : Node ρ} (h : Regroups child other) :
    Regroups ⟨kind, text, place, before ++ child :: after⟩
      ⟨kind, text, place, before ++ other :: after⟩

def markers (node : Node ρ) : List (Text × ρ) :=
  node.preorder.filterMap fun inner =>
    if inner.kind = .errorMarker then some (inner.text, inner.place) else none

section Markers
variable {kind : NodeKind} {text : Text} {place : ρ}

theorem markers_head? (node : Node ρ) :
    node.markers.head? = node.firstMarker?.map fun marker => (marker.text, marker.place) := by
  rw [markers, firstMarker?_eq_find?, List.head?_filterMap]
  induction node.preorder with
  | nil => rfl
  | cons inner rest ih => by_cases h : inner.kind = .errorMarker <;> simp [h, ih]

theorem markers_mk (children : List (Node ρ)) : markers ⟨kind, text, place, children⟩ =
    (if kind = .errorMarker then [(text, place)] else []) ++ children.flatMap markers := by
  rw [markers, preorder_eq, List.filterMap_cons, List.filterMap_flatMap]
  by_cases h : kind = .errorMarker
  · simp only [h, if_true, List.singleton_append]
    rfl
  · simp only [h, if_false, List.nil_append]
    rfl

theorem markers_connective {node : Node ρ} (h : node.kind = .and ∨ node.kind = .or) :
    node.markers = node.children.flatMap markers := by
  obtain ⟨kind, text, place, children⟩ := node
  obtain rfl | rfl : kind = .and ∨ kind = .or := h
  · exact markers_mk children
  · exact markers_mk children

theorem LeftNested.markers {operands : List (Node ρ)} {nested : Node ρ}
    (h : LeftNested kind operands nested) (hk : kind = .and ∨ kind = .or) :
    nested.markers = operands.flatMap Node.markers := by
  induction h with
  | pair text place first second => exact markers_connective hk
  | more h text place last ih =>
    rw [markers_connective hk]
    simp [ih]

theorem Nests.markers {flat nested : Node ρ} (h : Nests flat nested) :
    flat.markers = nested.markers := by
  obtain ⟨hk, -, hn⟩ := h
  rw [hn.markers hk, markers_connective hk]

theorem Regrouped.markers {child other : Node ρ} (h : Regrouped child other) :
    child.markers = other.markers := by
  cases h with
  | bracket text place inner => simp [markers_mk]
  | nested h => exact h.markers

theorem markers_swap {before after : List (Node ρ)} {child other : Node ρ}
    (h : child.markers = other.markers) :
    markers ⟨kind, text, place, before ++ child :: after⟩ =
      markers ⟨kind, text, place, before ++ other :: after⟩ := by
  simp [markers_mk, h]

theorem Regroups.markers {a b : Node ρ} (h : Regroups a b) : a.markers = b.markers := by
  induction h with
  | condition hk h => exact markers_swap h.markers
  | nested h ht => exact h.markers
  | inside h ih => exact markers_swap ih

end Markers

/-- Nodes that no part of a query tells apart. -/
structure Alike (a b : Node ρ) : Prop where
  kind : a.kind = b.kind
  text : a.text = b.text
  condition : Expression.ofNode a = Expression.ofNode b
  part : ∀ draft : Draft, draft.addPart a = draft.addPart b

theorem Alike.refl (node : Node ρ) : Alike node node :=
  ⟨rfl, rfl, rfl, fun _ => rfl⟩

theorem Alike.misplaced {a b : Node ρ} (h : Alike a b) (position : Position) :
    a.misplaced position = b.misplaced position := by
  rw [Node.misplaced, Node.misplaced, h.kind, h.text]

theorem Alike.field {a b : Node ρ} (h : Alike a b) : a.field = b.field := by
  rw [Node.field, Node.field, h.text]

/-- The error of a node hangs on its place only if it is an error marker. -/
theorem fault_congr {a b : Node ρ} (hk : a.kind = b.kind) (ht : a.text = b.text)
    (hp : a.kind = .errorMarker → a.place = b.place) (position : Position) :
    a.fault position = b.fault position := by
  unfold fault
  rw [misplaced, misplaced, ← hk, ← ht]
  split
  · rw [hp ‹_›]
  · rfl

theorem forall₂_around {R : Node ρ → Node ρ → Prop} (hr : ∀ node, R node node)
    {child other : Node ρ} (h : R child other) (before after : List (Node ρ)) :
    List.Forall₂ R (before ++ child :: after) (before ++ other :: after) := by
  induction before with
  | nil => exact .cons h (List.forall₂_same.mpr fun node _ => hr node)
  | cons node rest ih => exact .cons (hr node) ih

end Node

namespace Expression
open Node

def SameCondition (a b : Node ρ) : Prop :=
  ofNode a = ofNode b

theorem ofNodes_congr {nodes others : List (Node ρ)} (h : List.Forall₂ SameCondition nodes others) :
    ofNodes nodes = ofNodes others := by
  induction h with
  | nil => rfl
  | cons hn hs ih => rw [ofNodes, ofNodes, hn, ih]

section Congr
variable {kind : NodeKind} {text : Text} {place : ρ} {nodes others : List (Node ρ)}

theorem ofNode_congr_conditions (hk : kind.holdsConditions = true)
    (h : List.Forall₂ SameCondition nodes others) :
    ofNode ⟨kind, text, place, nodes⟩ = ofNode ⟨kind, text, place, others⟩ := by
  cases kind with
  | and => rw [ofNode, ofNode, h.length_eq, ofNodes_congr h]
  | or => rw [ofNode, ofNode, h.length_eq, ofNodes_congr h]
  | not =>
    cases h with
    | nil => rfl
    | cons hn hs =>
      cases hs with
      | nil => rw [ofNode, ofNode, hn]
      | cons _ _ => rfl
  | group =>
    cases h with
    | nil => rfl
    | cons hn hs =>
      cases hs with
      | nil => rw [ofNode, ofNode, hn]
      | cons _ _ => rfl
  | clause clause =>
    exact congrArg Except.error (fault_congr rfl rfl (fun _ => rfl) _)
  | _ => cases hk

theorem comparisonOf_congr (h : List.Forall₂ Alike nodes others) :
    comparisonOf text nodes = comparisonOf text others := by
  unfold comparisonOf
  cases Operator.ofSymbol? text with
  | none => rfl
  | some op =>
    cases h with
    | nil => rfl
    | cons hf hs =>
      cases hs with
      | nil => rfl
      | cons hv hr =>
        cases hr with
        | nil => simp only [hf.kind, hf.misplaced, hf.field, hv.kind, hv.text, hv.misplaced]
        | cons _ _ => rfl

theorem ofNode_congr (h : List.Forall₂ Alike nodes others) :
    ofNode ⟨kind, text, place, nodes⟩ = ofNode ⟨kind, text, place, others⟩ := by
  cases hk : kind.holdsConditions with
  | true => exact ofNode_congr_conditions hk (h.imp fun _ _ hn => hn.condition)
  | false =>
    cases kind with
    | comparison => rw [ofNode, ofNode, comparisonOf_congr h]
    | and | or | not | group => cases hk
    | _ => exact congrArg Except.error (fault_congr rfl rfl (fun _ => rfl) _)

theorem ofNode_leftNested {combine : Expression → Expression → Expression} {nested : Node ρ}
    (hc : Connects kind combine) (h : LeftNested kind nodes nested) :
    2 ≤ nodes.length ∧ ofNode nested = (ofNodes nodes).bind (join combine kind) := by
  induction h with
  | pair text place first second => exact ⟨Nat.le_refl 2, ofNode_connective hc (Nat.le_refl 2)⟩
  | @more operands left h text place last ih =>
    obtain ⟨hl, he⟩ := ih
    refine ⟨by rw [List.length_append]; omega, ?_⟩
    rw [@ofNode_connective ρ [left, last] _ _ _ _ hc (Nat.le_refl 2), ofNodes_append, ofNodes, he]
    cases ho : ofNodes operands with
    | error e => rfl
    | ok conditions =>
      have hlen : 2 ≤ conditions.length := by rwa [ofNodes_length ho]
      obtain ⟨joined, hj⟩ := @exists_join ρ kind combine conditions hlen
      rw [Except.bind, hj]
      cases hlast : ofNode last with
      | error e => simp only [ofNodes, hlast, Except.map, Except.bind]
      | ok condition =>
        simp only [ofNodes, hlast, Except.map, Except.bind, join_concat hlen, hj]
        rfl

theorem connects_of_kind (h : kind = .and ∨ kind = .or) : ∃ combine, Connects kind combine := by
  rcases h with rfl | rfl
  · exact ⟨and, .and⟩
  · exact ⟨or, .or⟩

theorem ofNode_nests {flat nested : Node ρ} (h : Nests flat nested) :
    SameCondition flat nested := by
  obtain ⟨kind, text, place, operands⟩ := flat
  obtain ⟨hk, -, hn⟩ := h
  obtain ⟨combine, hc⟩ := connects_of_kind hk
  obtain ⟨hl, he⟩ := ofNode_leftNested hc hn
  rw [SameCondition, ofNode_connective hc hl, he]

theorem ofNode_regrouped {child other : Node ρ} (h : Regrouped child other) :
    SameCondition child other := by
  cases h with
  | bracket text place inner => rfl
  | nested h => exact ofNode_nests h

theorem first_operand_fails (hk : kind = .and ∨ kind = .or) (hl : 2 ≤ nodes.length)
    (e : CompileError ρ) :
    (ofNode ⟨kind, text, place, nodes⟩ = .error e ↔ FirstFails nodes e) ∧
      ∀ nested, LeftNested kind nodes nested → (ofNode nested = .error e ↔ FirstFails nodes e) := by
  obtain ⟨combine, hc⟩ := connects_of_kind hk
  have hf := @ofNode_connective_error_iff ρ nodes kind text place combine e hc hl
  refine ⟨hf, fun nested hn => ?_⟩
  rw [(ofNode_leftNested hc hn).2, ← @ofNode_connective ρ nodes kind text place combine hc hl, hf]

end Congr
end Expression

namespace Draft
open Node

variable {kind : NodeKind} {text : Text} {place : ρ} {nodes others : List (Node ρ)}

theorem addSource_congr (draft : Draft) (h : List.Forall₂ Alike nodes others) :
    draft.addSource nodes = draft.addSource others := by
  cases h with
  | nil => rfl
  | cons hn hs =>
    cases hs with
    | nil => simp only [addSource, hn.kind, hn.text, hn.misplaced]
    | cons _ _ => rfl

theorem addFilter_congr (draft : Draft)
    (h : List.Forall₂ Expression.SameCondition nodes others) :
    draft.addFilter nodes = draft.addFilter others := by
  cases h with
  | nil => rfl
  | cons hn hs =>
    cases hs with
    | nil => rw [addFilter, addFilter, hn]
    | cons _ _ => rfl

theorem addOrdering_congr (draft : Draft) {node other : Node ρ} (h : Alike node other) :
    draft.addOrdering node = draft.addOrdering other := by
  unfold addOrdering
  rw [h.kind, h.field, h.text, h.misplaced]

theorem countOf_congr (clause : Clause) (h : List.Forall₂ Alike nodes others) :
    countOf clause nodes = countOf clause others := by
  cases h with
  | nil => rfl
  | cons hn hs =>
    cases hs with
    | nil => simp only [countOf, hn.kind, hn.text, hn.misplaced]
    | cons _ _ => rfl

theorem foldlM_congr {step : Draft → Node ρ → Except (CompileError ρ) Draft}
    {R : Node ρ → Node ρ → Prop} (hstep : ∀ draft a b, R a b → step draft a = step draft b)
    (h : List.Forall₂ R nodes others) (draft : Draft) :
    nodes.foldlM step draft = others.foldlM step draft := by
  induction h generalizing draft with
  | nil => rfl
  | cons hn hs ih =>
    rw [List.foldlM_cons, List.foldlM_cons, hstep draft _ _ hn]
    exact congrArg _ (funext fun next => ih next)

theorem addPart_congr (draft : Draft) (h : List.Forall₂ Alike nodes others) :
    draft.addPart ⟨kind, text, place, nodes⟩ = draft.addPart ⟨kind, text, place, others⟩ := by
  cases kind with
  | clause clause =>
    cases clause with
    | source => exact addSource_congr draft h
    | filter => exact addFilter_congr draft (h.imp fun _ _ hn => hn.condition)
    | ordering => exact foldlM_congr (fun draft _ _ hn => addOrdering_congr draft hn) h draft
    | limit =>
      unfold addPart
      dsimp only
      rw [countOf_congr .limit h]
      rfl
    | offset =>
      unfold addPart
      dsimp only
      rw [countOf_congr .offset h]
      rfl
  | _ => rfl

theorem addPart_congr_conditions (draft : Draft) (hk : kind.holdsConditions = true)
    (h : List.Forall₂ Expression.SameCondition nodes others) :
    draft.addPart ⟨kind, text, place, nodes⟩ = draft.addPart ⟨kind, text, place, others⟩ := by
  cases kind with
  | clause clause =>
    cases clause with
    | filter => exact addFilter_congr draft h
    | _ => cases hk
  | _ => rfl

theorem addPart_connective (draft : Draft) {node : Node ρ}
    (h : node.kind = .and ∨ node.kind = .or) :
    draft.addPart node = .error (node.misplaced .projection) := by
  obtain ⟨kind, text, place, children⟩ := node
  obtain rfl | rfl : kind = .and ∨ kind = .or := h
  · rfl
  · rfl

end Draft

namespace Node

theorem LeftNested.kind {connective : NodeKind} {operands : List (Node ρ)} {nested : Node ρ}
    (h : LeftNested connective operands nested) : nested.kind = connective := by
  cases h <;> rfl

theorem Nests.alike {flat nested : Node ρ} (h : Nests flat nested)
    (ht : nested.text = flat.text) : Alike flat nested := by
  have hkind : nested.kind = flat.kind := h.2.2.kind
  refine ⟨hkind.symm, ht.symm, Expression.ofNode_nests h, fun draft => ?_⟩
  rw [draft.addPart_connective h.1, draft.addPart_connective (by rw [hkind]; exact h.1),
    misplaced, misplaced, hkind, ht]

/-- A tree written in another way at one place is the same to every part of a query. -/
theorem Regroups.alike {a b : Node ρ} (h : Regroups a b) : Alike a b := by
  induction h with
  | @condition kind text place before after child other hk h =>
    have hs := @forall₂_around ρ Expression.SameCondition (fun _ => rfl) child other
      (Expression.ofNode_regrouped h) before after
    exact ⟨rfl, rfl, Expression.ofNode_congr_conditions hk hs,
      fun draft => draft.addPart_congr_conditions hk hs⟩
  | nested h ht => exact h.alike ht
  | @inside kind text place before after child other h ih =>
    have hs := forall₂_around Alike.refl ih before after
    exact ⟨rfl, rfl, Expression.ofNode_congr hs, fun draft => draft.addPart_congr hs⟩

def isZero (name : Char) : Node Unit :=
  ⟨.comparison, ['='], (),
    [leaf (.literal .identifier) [name] (), leaf (.literal .integer) ['0'] ()]⟩

def bracketed (condition : Node Unit) : Node Unit :=
  ⟨.group, ['('], (), [condition]⟩

def anyOf (conditions : List (Node Unit)) : Node Unit :=
  ⟨.or, "OR".toList, (), conditions⟩

def rowsWhere (condition : Node Unit) : Node Unit :=
  ⟨.select, "SELECT".toList, (), [leaf .wildcard ['*'] (),
    ⟨.clause .source, "FROM".toList, (), [leaf (.literal .identifier) ['t'] ()]⟩,
    ⟨.clause .filter, "WHERE".toList, (), [condition]⟩]⟩

theorem regroups_where {a b : Node Unit}
    (h : Regroups ⟨.clause .filter, "WHERE".toList, (), [a]⟩
      ⟨.clause .filter, "WHERE".toList, (), [b]⟩) : Regroups (rowsWhere a) (rowsWhere b) :=
  @Regroups.inside Unit .select "SELECT".toList () [leaf .wildcard ['*'] (),
    ⟨.clause .source, "FROM".toList, (), [leaf (.literal .identifier) ['t'] ()]⟩] [] _ _ h

theorem regroups_filter {a b : Node Unit} (h : Regrouped a b) :
    Regroups (rowsWhere a) (rowsWhere b) :=
  regroups_where (@Regroups.condition Unit (.clause .filter) "WHERE".toList () [] [] a b rfl h)

end Node

namespace Query
open Node

theorem draft_congr {kind : NodeKind} {text : Text} {place : ρ} {nodes others : List (Node ρ)}
    (h : List.Forall₂ Alike nodes others) :
    Draft.ofTree ⟨kind, text, place, nodes⟩ = Draft.ofTree ⟨kind, text, place, others⟩ := by
  unfold Draft.ofTree
  dsimp only
  split
  · exact Draft.foldlM_congr (fun draft _ _ hn => hn.part draft) h .empty
  · rfl

theorem draft_unselected {a b : Node ρ} (hs : a.kind ≠ .select) (hm : a.kind ≠ .errorMarker)
    (hk : a.kind = b.kind) (ht : a.text = b.text) : Draft.ofTree a = Draft.ofTree b := by
  rw [Draft.ofTree, Draft.ofTree, if_neg hs, if_neg (hk ▸ hs),
    fault_congr hk ht fun he => absurd he hm]

theorem draft_regroups {a b : Node ρ} (h : Regroups a b) : Draft.ofTree a = Draft.ofTree b := by
  cases h with
  | @condition kind text place before after child other hk h =>
    refine draft_unselected ?_ ?_ rfl rfl
    · rintro rfl
      cases hk
    · rintro rfl
      cases hk
  | nested h ht =>
    have ha := h.alike ht
    refine draft_unselected ?_ ?_ ha.kind ha.text
    · intro hs
      rcases h.1 with hk | hk <;> cases hs.symm.trans hk
    · intro hm
      rcases h.1 with hk | hk <;> cases hm.symm.trans hk
  | inside h => exact draft_congr (forall₂_around Alike.refl h.alike _ _)

theorem ofTree_eq (tree : Node ρ) : ofTree tree = tree.markers.head?.elim (ofParts tree)
    fun marker => .error (.unreadable marker.1 marker.2) := by
  rw [markers_head?, ofTree]
  cases tree.firstMarker? <;> rfl

theorem ofTree_regroups {a b : Node ρ} (h : Regroups a b) : ofTree a = ofTree b := by
  rw [ofTree_eq, ofTree_eq, h.markers, ofParts, ofParts, draft_regroups h]

/-- Trees that differ only in brackets and in the nesting of connectives give the same query or the
same error. Their first error markers agree, and without one a connective, flat or nested, has the
error of its first operand that fails. -/
theorem grouping_leaves_no_trace {a b : Node ρ} (h : Relation.ReflTransGen Regroups a b) :
    ofTree a = ofTree b ∧
    (a.firstMarker?.map fun marker => (marker.text, marker.place)) =
      (b.firstMarker?.map fun marker => (marker.text, marker.place)) ∧
    ∀ (connective : NodeKind) (text : Text) (place : ρ) (operands : List (Node ρ)),
      (connective = .and ∨ connective = .or) → 2 ≤ operands.length → ∀ e,
        (Expression.ofNode ⟨connective, text, place, operands⟩ = .error e ↔
          Expression.FirstFails operands e) ∧
        ∀ nested, LeftNested connective operands nested →
          (Expression.ofNode nested = .error e ↔ Expression.FirstFails operands e) := by
  refine ⟨?_, ?_, fun connective text place operands hk hl e =>
    Expression.first_operand_fails hk hl e⟩
  · induction h with
    | refl => rfl
    | tail _ hs ih => exact ih.trans (ofTree_regroups hs)
  · rw [← markers_head?, ← markers_head?]
    induction h with
    | refl => rfl
    | tail _ hs ih => rw [ih, hs.markers]

theorem grouping_leaves_no_trace_nested :
    Relation.ReflTransGen Regroups
      (rowsWhere (bracketed (anyOf [isZero 'a', bracketed (isZero 'b'), isZero 'c'])))
      (rowsWhere (anyOf [anyOf [isZero 'a', isZero 'b'], isZero 'c'])) ∧
    ofTree (rowsWhere (bracketed (anyOf [isZero 'a', bracketed (isZero 'b'), isZero 'c']))) =
      ofTree (rowsWhere (anyOf [anyOf [isZero 'a', isZero 'b'], isZero 'c'])) ∧
    (ofTree (rowsWhere (anyOf [anyOf [isZero 'a', isZero 'b'], isZero 'c']))).toBool = true := by
  have outer : Regroups
      (rowsWhere (bracketed (anyOf [isZero 'a', bracketed (isZero 'b'), isZero 'c'])))
      (rowsWhere (anyOf [isZero 'a', bracketed (isZero 'b'), isZero 'c'])) :=
    regroups_filter (.bracket ['('] () _)
  have inner : Regroups (anyOf [isZero 'a', bracketed (isZero 'b'), isZero 'c'])
      (anyOf [isZero 'a', isZero 'b', isZero 'c']) :=
    @Regroups.condition Unit .or "OR".toList () [isZero 'a'] [isZero 'c'] _ _ rfl
      (.bracket ['('] () (isZero 'b'))
  have within := regroups_where
    (@Regroups.inside Unit (.clause .filter) "WHERE".toList () [] [] _ _ inner)
  have nested : LeftNested .or [isZero 'a', isZero 'b', isZero 'c']
      (anyOf [anyOf [isZero 'a', isZero 'b'], isZero 'c']) :=
    .more (.pair "OR".toList () (isZero 'a') (isZero 'b')) "OR".toList () (isZero 'c')
  have last : Regroups (rowsWhere (anyOf [isZero 'a', isZero 'b', isZero 'c']))
      (rowsWhere (anyOf [anyOf [isZero 'a', isZero 'b'], isZero 'c'])) :=
    regroups_filter (.nested ⟨.inr rfl, Nat.le_refl 3, nested⟩)
  have h := ((Relation.ReflTransGen.single outer).tail within).tail last
  exact ⟨h, (grouping_leaves_no_trace h).1, by decide⟩

end Query
end EntityQuery
