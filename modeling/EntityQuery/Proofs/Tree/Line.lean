import EntityQuery.Proofs.Lexeme.Layout
import EntityQuery.Proofs.Tree.Nodes

/-! Nodes that stand in a line: one after the other in the source text, each with all nodes below
it where they belong. Where the last nodes of a line are put below a new node that covers them, the
nodes still stand in a line. -/
namespace EntityQuery
open Text

namespace Text

/-- Whether byte `n` is between two characters of a text or at one of its ends. -/
def IsCut (text : Text) (n : Nat) : Prop :=
  ∃ before after, text = before ++ after ∧ n = before.byteLength

theorem IsCut.le {text : Text} {n : Nat} (h : text.IsCut n) : n ≤ text.byteLength := by
  obtain ⟨before, after, rfl, rfl⟩ := h
  rw [byteLength_append]
  exact Nat.le_add_right _ _

end Text

namespace Span

structure Stands (span : Span) (source : Text) : Prop where
  ordered : span.start ≤ span.stop
  start : source.IsCut span.start
  stop : source.IsCut span.stop

theorem stands_parts (before written after : Text) :
    Stands ⟨before.byteLength, before.byteLength + written.byteLength⟩
      (before ++ (written ++ after)) where
  ordered := Nat.le_add_right _ _
  start := ⟨before, written ++ after, rfl, rfl⟩
  stop := ⟨before ++ written, after, by simp, (byteLength_append before written).symm⟩

theorem stands_point {source : Text} {n : Nat} (h : source.IsCut n) : (point n).Stands source :=
  ⟨Nat.le_refl n, h, h⟩

theorem Stands.exists_parts {span : Span} {source : Text} (h : span.Stands source) :
    ∃ before written after, source = before ++ (written ++ after) ∧
      span = ⟨before.byteLength, before.byteLength + written.byteLength⟩ := by
  obtain ⟨start, stop⟩ := span
  obtain ⟨ho, ⟨before, rest, hs, rfl⟩, ⟨upto, after, he, rfl⟩⟩ := h
  obtain ⟨written, rfl, rfl⟩ | ⟨more, rfl, rfl⟩ :=
    List.append_eq_append_iff.mp (hs.symm.trans he)
  · exact ⟨before, written, after, hs, by rw [byteLength_append]⟩
  · have hm : more = [] := by
      by_contra hm
      have hp := byteLength_pos hm
      simp only [byteLength_append] at ho
      omega
    subst hm
    exact ⟨upto, [], rest, by simpa using he, by simp [byteLength]⟩

end Span

namespace Node

/-- A node is a part of the source around its children, and a literal is the text that stands
there. -/
structure Placed (node : Tree) (source : Text) : Prop where
  stands : node.place.Stands source
  inside : ∀ child ∈ node.children,
    node.place.start ≤ child.place.start ∧ child.place.stop ≤ node.place.stop
  literal : ∀ kind, node.kind = .literal kind →
    source.slice? node.place.start node.place.stop = some node.text

def Precedes (a b : Tree) : Prop :=
  a.place.stop ≤ b.place.start

def WellPlaced (tree : Tree) (source : Text) : Prop :=
  ∀ node ∈ tree.preorder, node.Placed source ∧ node.children.IsChain Precedes

theorem wellPlaced_iff {tree : Tree} {source : Text} : tree.WellPlaced source ↔
    (tree.Placed source ∧ tree.children.IsChain Precedes) ∧
      ∀ child ∈ tree.children, child.WellPlaced source := by
  rw [WellPlaced, preorder_eq, List.forall_mem_cons]
  simp only [List.mem_flatMap, forall_exists_index, and_imp, WellPlaced]
  exact and_congr_right fun _ => forall_comm.trans (forall_congr' fun child => forall_comm)

theorem WellPlaced.stands {tree : Tree} {source : Text} (h : tree.WellPlaced source) :
    tree.place.Stands source :=
  (wellPlaced_iff.mp h).1.1.stands

theorem wellPlaced_leaf {kind : NodeKind} {text : Text} {place : Span} {source : Text}
    (hs : place.Stands source)
    (hl : ∀ literal, kind = .literal literal → source.slice? place.start place.stop = some text) :
    (leaf kind text place).WellPlaced source :=
  wellPlaced_iff.mpr ⟨⟨⟨hs, by simp [leaf], hl⟩, .nil⟩, by simp [leaf]⟩

end Node

namespace Tree

/-- Trees that stand one after the other from byte `lo` to byte `hi`. -/
inductive Line (source : Text) : Nat → List Tree → Nat → Prop where
  | nil {lo hi : Nat} (h : lo ≤ hi) : Line source lo [] hi
  | cons {lo hi : Nat} {tree : Tree} {rest : List Tree} (hs : lo ≤ tree.place.start)
      (ht : tree.WellPlaced source) (h : Line source tree.place.stop rest hi) :
    Line source lo (tree :: rest) hi

namespace Line
variable {source : Text} {lo hi : Nat} {a b : List Tree} {tree : Tree}

theorem weaken (h : Line source lo a hi) {lower upper : Nat} (hl : lower ≤ lo) (hu : hi ≤ upper) :
    Line source lower a upper := by
  induction h generalizing lower with
  | nil h => exact .nil (by omega)
  | cons hs ht h ih => exact .cons (hl.trans hs) ht (ih (Nat.le_refl _) hu)

theorem le (h : Line source lo a hi) : lo ≤ hi := by
  induction h with
  | nil h => exact h
  | cons hs ht h ih =>
    have hp := ht.stands.ordered
    omega

theorem append_iff :
    Line source lo (a ++ b) hi ↔ ∃ mid, Line source lo a mid ∧ Line source mid b hi := by
  constructor
  · intro h
    induction a generalizing lo with
    | nil => exact ⟨lo, .nil (Nat.le_refl lo), h⟩
    | cons tree rest ih =>
      cases h with
      | cons hs ht h =>
        obtain ⟨mid, ha, hb⟩ := ih h
        exact ⟨mid, .cons hs ht ha, hb⟩
  · rintro ⟨mid, ha, hb⟩
    induction ha with
    | nil h => exact hb.weaken h (Nat.le_refl _)
    | cons hs ht h ih => exact .cons hs ht (ih hb)

theorem snoc (h : Line source lo a hi) (ht : tree.WellPlaced source)
    (hs : hi ≤ tree.place.start) : Line source lo (a ++ [tree]) tree.place.stop :=
  append_iff.mpr ⟨hi, h, .cons hs ht (.nil (Nat.le_refl _))⟩

theorem mem (h : Line source lo a hi) (hm : tree ∈ a) :
    tree.WellPlaced source ∧ lo ≤ tree.place.start ∧ tree.place.stop ≤ hi := by
  induction h with
  | nil h => cases hm
  | cons hs ht h ih =>
    obtain rfl | hm := List.mem_cons.mp hm
    · exact ⟨ht, hs, h.le⟩
    · have hp := ht.stands.ordered
      obtain ⟨hw, hl, hu⟩ := ih hm
      exact ⟨hw, by omega, hu⟩

theorem sublist (h : Line source lo a hi) (hb : b.Sublist a) : Line source lo b hi := by
  induction hb generalizing lo with
  | slnil => exact h
  | cons tree hb ih =>
    cases h with
    | cons hs ht h =>
      have hp := ht.stands.ordered
      exact (ih h).weaken (hs.trans hp) (Nat.le_refl hi)
  | cons_cons tree hb ih =>
    cases h with
    | cons hs ht h => exact .cons hs ht (ih h)

theorem isChain (h : Line source lo a hi) : a.IsChain Node.Precedes := by
  induction h with
  | nil h => exact .nil
  | cons hs ht h ih =>
    cases h with
    | nil h => exact .singleton _
    | cons hs => exact .cons_cons hs ih

theorem between {first last : Tree} (h : Line source lo a hi) (hf : a.head? = some first)
    (hl : a.getLast? = some last) :
    lo ≤ first.place.start ∧ last.place.stop ≤ hi ∧
      Line source first.place.start a last.place.stop := by
  obtain ⟨rest, rfl⟩ := List.head?_eq_some_iff.mp hf
  obtain ⟨init, he⟩ := List.getLast?_eq_some_iff.mp hl
  cases h with
  | cons hs ht h =>
    have hc : Line source first.place.start (first :: rest) hi := .cons (Nat.le_refl _) ht h
    rw [he] at hc ⊢
    obtain ⟨mid, hi, hm⟩ := append_iff.mp hc
    cases hm with
    | cons hlast hw hm => exact ⟨hs, hm.le, hi.snoc hw hlast⟩

/-- The last trees of a line, put below a node that covers them, are one tree of the line. Some of
them may be left out below the node, as the keywords are. -/
theorem gather {before items children : List Tree} {first last : Tree} {kind : NodeKind}
    {text : Text} (h : Line source lo (before ++ items) hi) (hf : items.head? = some first)
    (hl : items.getLast? = some last) (hc : children.Sublist items)
    (hk : ∀ literal, kind ≠ .literal literal) :
    Line source lo (before ++ [⟨kind, text, first.place.cover last.place, children⟩]) hi := by
  obtain ⟨mid, hb, hi⟩ := append_iff.mp h
  obtain ⟨hs, hu, hline⟩ := hi.between hf hl
  obtain ⟨hfirst, -, hfe⟩ := hline.mem (List.mem_of_head? hf)
  obtain ⟨hlast, hls, -⟩ := hline.mem (List.mem_of_getLast? hl)
  have hfs := hfirst.stands
  have hlt := hlast.stands
  have hcover : first.place.cover last.place = ⟨first.place.start, last.place.stop⟩ := by
    rw [Span.cover, Nat.min_eq_left hls, Nat.max_eq_right hfe]
  have hbelow := hline.sublist hc
  rw [hcover]
  refine append_iff.mpr ⟨mid, hb, .cons hs (Node.wellPlaced_iff.mpr ⟨⟨⟨?_, ?_, ?_⟩, ?_⟩, ?_⟩)
    (.nil hu)⟩
  · exact ⟨hline.le, hfs.start, hlt.stop⟩
  · exact fun child hm => (hbelow.mem hm).2
  · exact fun literal he => absurd he (hk literal)
  · exact hbelow.isChain
  · exact fun child hm => (hbelow.mem hm).1

theorem gather_all {items children : List Tree} {first last : Tree} {kind : NodeKind}
    {text : Text} (h : Line source lo items hi) (hf : items.head? = some first)
    (hl : items.getLast? = some last) (hc : children.Sublist items)
    (hk : ∀ literal, kind ≠ .literal literal) :
    Line source lo [⟨kind, text, first.place.cover last.place, children⟩] hi :=
  @gather source lo hi [] items children first last kind text h hf hl hc hk

end Line
end Tree
end EntityQuery
