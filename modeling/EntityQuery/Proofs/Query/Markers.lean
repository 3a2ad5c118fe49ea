import EntityQuery.Proofs.Query.Connectives
import EntityQuery.Proofs.Tree.Nodes
import EntityQuery.Proofs.Tree.Ranks

/-! Error markers and the errors they cause. Whoever builds a query from parts of a tree may come
across a marker or may not, but nothing else in a tree is unreadable. The markers that a parser
leaves stand right below the root, where all parts are read. -/
namespace EntityQuery
variable {ρ α β : Type}

/-- Where a result says that something is unreadable, it means an error marker among the nodes. -/
def BlamesMarkers (nodes : List (Node ρ)) (result : Except (CompileError ρ) α) : Prop :=
  ∀ message place, result = .error (.unreadable message place) →
    ∃ marker ∈ nodes, marker.kind = .errorMarker ∧ marker.text = message ∧ marker.place = place

namespace BlamesMarkers
variable {nodes : List (Node ρ)} {result : Except (CompileError ρ) α}

theorem ok (a : α) : BlamesMarkers nodes (.ok a) := by
  intro message place h
  cases h

theorem malformed (malformation : Malformation) :
    BlamesMarkers nodes (.error (.malformed malformation) : Except _ α) := by
  intro message place h
  cases h

theorem invalidCount (text : Text) :
    BlamesMarkers nodes (.error (.invalidCount text) : Except _ α) := by
  intro message place h
  cases h

theorem incomplete (result : Except Incomplete α) :
    BlamesMarkers nodes (result.mapError .incomplete) := by
  intro message place h
  cases result <;> cases h

theorem fault {node : Node ρ} (h : node ∈ nodes) (position : Position) :
    BlamesMarkers nodes (.error (node.fault position) : Except _ α) := by
  intro message place he
  unfold Node.fault at he
  split at he
  · cases he
    exact ⟨node, h, ‹_›, rfl, rfl⟩
  · cases he

theorem of_child {child node : Node ρ} (hc : child ∈ node.children)
    (h : BlamesMarkers child.preorder result) : BlamesMarkers node.preorder result := by
  intro message place he
  obtain ⟨marker, hm, hk⟩ := h message place he
  rw [node.preorder_eq]
  exact ⟨marker, List.mem_cons_of_mem node (List.mem_flatMap.mpr ⟨child, hc, hm⟩), hk⟩

theorem bind {next : α → Except (CompileError ρ) β} (h : BlamesMarkers nodes result)
    (hn : ∀ a, BlamesMarkers nodes (next a)) : BlamesMarkers nodes (result.bind next) := by
  intro message place he
  cases result with
  | ok a => exact hn a message place he
  | error e => exact h message place (congrArg Except.error (Except.error.inj he))

theorem map (h : BlamesMarkers nodes result) (f : α → β) : BlamesMarkers nodes (result.map f) := by
  intro message place he
  cases result with
  | ok a => cases he
  | error e => exact h message place (congrArg Except.error (Except.error.inj he))

theorem foldlM {γ : Type} {others : List (Node ρ)} {step : γ → Node ρ → Except (CompileError ρ) γ}
    (h : ∀ node ∈ others, ∀ state, BlamesMarkers nodes (step state node)) (state : γ) :
    BlamesMarkers nodes (others.foldlM step state) := by
  induction others generalizing state with
  | nil => exact ok state
  | cons node rest ih =>
    rw [List.foldlM_cons]
    exact (h node List.mem_cons_self state).bind fun next =>
      ih (fun other ho => h other (List.mem_cons_of_mem node ho)) next

end BlamesMarkers

namespace Node

theorem mem_preorder_self (node : Node ρ) : node ∈ node.preorder := by
  rw [preorder_eq]
  exact List.mem_cons_self

end Node

namespace Expression
open Node

theorem comparisonOf_blames (nodes : List (Node ρ)) (text : Text) (children : List (Node ρ)) :
    BlamesMarkers nodes (comparisonOf text children) := by
  unfold comparisonOf
  split
  · exact .malformed _
  · split
    · split
      · exact .malformed _
      · split
        · exact .malformed _
        · exact .ok _
    · exact .malformed _

theorem ofNode_connective_blames {connective : NodeKind}
    {combine : Expression → Expression → Expression} {text : Text} {place : ρ}
    {children : List (Node ρ)} (hc : Connects connective combine)
    (ih : ∀ child ∈ children, BlamesMarkers child.preorder (ofNode child)) :
    BlamesMarkers (preorder ⟨connective, text, place, children⟩)
      (ofNode ⟨connective, text, place, children⟩) := by
  by_cases hl : children.length < 2
  · rw [ofNode_few hc hl]
    exact .malformed _
  · intro message position he
    obtain ⟨before, bad, after, rfl, -, hb⟩ :=
      (ofNode_connective_error_iff hc (Nat.not_lt.mp hl)).mp he
    have hm : bad ∈ before ++ bad :: after := List.mem_append_right before List.mem_cons_self
    exact BlamesMarkers.of_child hm (ih bad hm) message position hb

theorem ofNode_blames (node : Node ρ) : BlamesMarkers node.preorder (ofNode node) := by
  induction node using Node.induct with
  | step kind text place children ih =>
    cases kind with
    | and => exact ofNode_connective_blames .and ih
    | or => exact ofNode_connective_blames .or ih
    | not =>
      match children, ih with
      | [operand], ih =>
        refine BlamesMarkers.map ?_ Expression.not
        exact .of_child List.mem_cons_self (ih operand List.mem_cons_self)
      | [], _ => exact .malformed _
      | _ :: _ :: _, _ => exact .malformed _
    | group =>
      match children, ih with
      | [inner], ih => exact .of_child List.mem_cons_self (ih inner List.mem_cons_self)
      | [], _ => exact .malformed _
      | _ :: _ :: _, _ => exact .malformed _
    | comparison => exact comparisonOf_blames _ text children
    | _ => exact .fault (mem_preorder_self _) _

end Expression

namespace Draft
open Node
variable {nodes : List (Node ρ)}

theorem addSource_blames (draft : Draft) (children : List (Node ρ)) :
    BlamesMarkers nodes (draft.addSource children) := by
  unfold addSource
  split
  · split
    · exact .ok _
    · exact .malformed _
  · exact .malformed _

theorem addFilter_blames (draft : Draft) (node : Node ρ) :
    BlamesMarkers node.preorder (draft.addFilter node.children) := by
  unfold addFilter
  split
  · rename_i condition hc
    have hm : condition ∈ node.children := hc ▸ List.mem_cons_self
    have hb := BlamesMarkers.of_child hm (Expression.ofNode_blames condition)
    exact (hb.bind fun filter => .ok (some filter)).map _
  · exact .malformed _

theorem addOrdering_blames (draft : Draft) (node : Node ρ) :
    BlamesMarkers nodes (draft.addOrdering node) := by
  unfold addOrdering
  split
  · exact .ok _
  · split
    · split
      · exact .ok _
      · exact .malformed _
    · exact .malformed _

theorem countOf_blames (clause : Clause) (children : List (Node ρ)) :
    BlamesMarkers nodes (countOf clause children) := by
  unfold countOf
  split
  · split
    · split
      · exact .ok _
      · exact .invalidCount _
    · exact .malformed _
  · exact .malformed _

theorem addPart_blames (draft : Draft) (node : Node ρ) :
    BlamesMarkers node.preorder (draft.addPart node) := by
  unfold addPart
  split
  · exact .ok _
  · split
    · exact addSource_blames draft node.children
    · exact addFilter_blames draft node
    · exact .foldlM (fun child _ next => addOrdering_blames next child) draft
    · exact ((countOf_blames .limit node.children).bind fun n => .ok (some n)).map _
    · exact ((countOf_blames .offset node.children).bind fun n => .ok (some n)).map _
    · exact .fault (mem_preorder_self node) _

theorem ofTree_blames (tree : Node ρ) : BlamesMarkers tree.preorder (ofTree tree) := by
  unfold ofTree
  split
  · exact .foldlM (fun child hc draft => .of_child hc (draft.addPart_blames child)) empty
  · exact .fault (mem_preorder_self tree) _

theorem addPart_marker {node : Node ρ} (h : node.kind = .errorMarker) (draft next : Draft) :
    draft.addPart node ≠ .ok next := by
  obtain ⟨kind, text, place, children⟩ := node
  obtain rfl : kind = .errorMarker := h
  intro ho
  cases ho

theorem no_marker_of_foldlM {draft whole : Draft} (h : nodes.foldlM addPart draft = .ok whole) :
    ∀ node ∈ nodes, node.kind ≠ .errorMarker := by
  induction nodes generalizing draft with
  | nil => simp
  | cons node rest ih =>
    rw [List.foldlM_cons] at h
    cases hn : draft.addPart node with
    | error e => simp [hn, bind, Except.bind] at h
    | ok next =>
      refine List.forall_mem_cons.mpr ⟨fun hk => addPart_marker hk draft next hn, ?_⟩
      exact ih (by simpa [hn, bind, Except.bind] using h)

end Draft

namespace Query
open Node

theorem ofParts_blames (tree : Node ρ) : BlamesMarkers tree.preorder (ofParts tree) :=
  (Draft.ofTree_blames tree).bind fun draft => .incomplete draft.build

theorem no_marker_of_ofParts {tree : Node ρ} {query : Query} (h : ofParts tree = .ok query) :
    tree.kind = .select ∧ ∀ child ∈ tree.children, child.kind ≠ .errorMarker := by
  rw [ofParts] at h
  cases hd : Draft.ofTree tree with
  | error e => simp [hd, Except.bind] at h
  | ok draft =>
    rw [Draft.ofTree] at hd
    split at hd
    · exact ⟨‹_›, Draft.no_marker_of_foldlM hd⟩
    · cases hd

theorem ofTree_first {tree marker : Node ρ} {before after : List (Node ρ)}
    (h : tree.preorder = before ++ marker :: after) (hk : marker.kind = .errorMarker)
    (hb : ∀ node ∈ before, node.kind ≠ .errorMarker) :
    ofTree tree = .error (.unreadable marker.text marker.place) := by
  have hm : tree.firstMarker? = some marker := by
    rw [firstMarker?_eq_find?, List.find?_eq_some_iff_append]
    exact ⟨by simpa using hk, before, after, h, by simpa using hb⟩
  rw [ofTree, hm]

theorem unreadable_iff {tree : Node ρ} :
    (∃ message place, ofTree tree = .error (.unreadable message place)) ↔
      ∃ node ∈ tree.preorder, node.kind = .errorMarker := by
  rw [ofTree]
  cases hm : tree.firstMarker? with
  | none =>
    have hn := firstMarker?_eq_none.mp hm
    constructor
    · rintro ⟨message, place, h⟩
      obtain ⟨marker, hin, hk, -⟩ := ofParts_blames tree message place h
      exact ⟨marker, hin, hk⟩
    · rintro ⟨node, hin, hk⟩
      exact absurd hk (hn node hin)
  | some marker =>
    rw [firstMarker?_eq_find?] at hm
    have hk := List.find?_some hm
    exact ⟨fun _ => ⟨marker, List.mem_of_find?_eq_some hm, by simpa using hk⟩,
      fun _ => ⟨marker.text, marker.place, rfl⟩⟩

/-- The search for error markers costs no tree of tokens its query, and none has a query without
it that it does not have with it. -/
theorem ofParts_ofTokens_ok {tokens : List Token} {query : Query} :
    ofParts (Tree.ofTokens tokens) = .ok query ↔ ofTree (Tree.ofTokens tokens) = .ok query := by
  constructor
  · intro h
    obtain ⟨hroot, hchildren⟩ := no_marker_of_ofParts h
    have hm : (Tree.ofTokens tokens).firstMarker? = none := by
      rw [firstMarker?_eq_none, preorder_eq]
      refine List.forall_mem_cons.mpr ⟨by rw [hroot]; exact NodeKind.noConfusion, ?_⟩
      intro inner hi
      obtain ⟨child, hc, hin⟩ := List.mem_flatMap.mp hi
      rw [preorder_eq] at hin
      rcases List.mem_cons.mp hin with rfl | hin
      · exact hchildren inner hc
      · intro hk
        have hinner := Tree.ofTokens_inner tokens child hc inner hin
        rw [hk] at hinner
        cases hinner
    rwa [ofTree, hm]
  · intro h
    rw [ofTree] at h
    split at h
    · cases h
    · exact h

/-- Error markers win, and nothing else is unreadable. A tree is unreadable exactly if a node at any
depth is an error marker, and the first one says why. Without the search for markers too, whatever
is said to be unreadable is a marker, and the tree of a sequence of tokens has the same query. -/
theorem error_markers_win :
    (∀ tree : Node ρ,
      ((∃ message place, ofTree tree = .error (.unreadable message place)) ↔
        ∃ node ∈ tree.preorder, node.kind = .errorMarker) ∧
      (∀ before marker after, tree.preorder = before ++ marker :: after →
        marker.kind = .errorMarker → (∀ node ∈ before, node.kind ≠ .errorMarker) →
        ofTree tree = .error (.unreadable marker.text marker.place)) ∧
      ∀ message place, ofParts tree = .error (.unreadable message place) →
        ∃ marker ∈ tree.preorder,
          marker.kind = .errorMarker ∧ marker.text = message ∧ marker.place = place) ∧
    ∀ tokens query,
      ofParts (Tree.ofTokens tokens) = .ok query ↔ ofTree (Tree.ofTokens tokens) = .ok query :=
  ⟨fun tree => ⟨unreadable_iff, fun _ _ _ h hk hb => ofTree_first h hk hb, ofParts_blames tree⟩,
    fun _ _ => ofParts_ofTokens_ok⟩

end Query
end EntityQuery
