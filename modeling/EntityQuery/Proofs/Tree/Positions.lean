import Mathlib.Data.List.Chain
import EntityQuery.Proofs.Query.Outcome
import EntityQuery.Proofs.Tree.Pieces
import EntityQuery.Session.Report

/-! Where the nodes of the tree of a text stand, and what that means for the carets under a syntax
error. After a fault at a clause keyword, reading goes on with that very keyword. -/
namespace EntityQuery
open Text

namespace Tree

structure AtClause (marker : Tree) (source : Text) : Prop where
  kind : marker.kind = .errorMarker
  keyword : ∃ clause written,
    source.slice? marker.place.start marker.place.stop = some written ∧
      (Lexeme.clause clause).Spells written

/-- How a part of a query follows the one before it: after its end, or else from the clause keyword
that the other one, an error marker, stands at. -/
def Follows (source : Text) (a b : Tree) : Prop :=
  a.Precedes b ∨
    AtClause a source ∧ a.place.start = b.place.start ∧ a.place.stop ≤ b.place.stop

section InOrder
variable {source : Text} {lo mid hi : Nat} {nodes more : List Tree}

/-- The complete nodes of a query, between byte `lo` and byte `hi`. -/
structure InOrder (source : Text) (lo hi : Nat) (nodes : List Tree) : Prop where
  within : ∀ node ∈ nodes,
    node.WellPlaced source ∧ lo ≤ node.place.start ∧ node.place.stop ≤ hi
  chain : nodes.IsChain (Follows source)

theorem InOrder.weaken (h : InOrder source lo mid nodes) (hu : mid ≤ hi) :
    InOrder source lo hi nodes :=
  ⟨fun node hm => ⟨(h.within node hm).1, (h.within node hm).2.1, (h.within node hm).2.2.trans hu⟩,
    h.chain⟩

theorem InOrder.append (h : InOrder source lo hi nodes) (hl : Line source mid more hi)
    (hm : lo ≤ mid)
    (hf : ∀ last ∈ nodes.getLast?, ∀ first ∈ more.head?, Follows source last first) :
    InOrder source lo hi (nodes ++ more) where
  within node hn := by
    obtain hn | hn := List.mem_append.mp hn
    · exact h.within node hn
    · obtain ⟨hw, hs, hu⟩ := hl.mem hn
      exact ⟨hw, hm.trans hs, hu⟩
  chain := List.isChain_append.mpr ⟨h.chain, hl.isChain.imp fun _ _ hp => .inl hp, hf⟩

end InOrder

namespace Reading
variable {reading : Reading} {source : Text} {lo hi upper : Nat} {token : Token}

/-- The complete nodes stand before what the unfinished part is made of, unless that part goes on
from the keyword that the last error marker stands at. -/
structure Placed (reading : Reading) (source : Text) (lo hi : Nat) : Prop where
  settled : InOrder source lo hi reading.children
  unfinished : ∃ mid, lo ≤ mid ∧ Line source mid reading.stage.items hi ∧
    ∀ last ∈ reading.children.getLast?, last.place.stop ≤ mid ∨
      AtClause last source ∧ last.place.start = mid ∧ reading.stage.keyword? = some last.place

theorem placed_start (source : Text) (lo : Nat) : start.Placed source lo lo where
  settled := ⟨by simp [start], .nil⟩
  unfinished := ⟨lo, Nat.le_refl lo, .nil (Nat.le_refl lo), by simp [start]⟩

theorem Placed.le (h : reading.Placed source lo hi) : lo ≤ hi := by
  obtain ⟨mid, hm, hl, -⟩ := h.unfinished
  exact hm.trans hl.le

theorem Placed.add (h : reading.Placed source lo hi) (hu : hi ≤ upper) {nodes : List Tree}
    {stage : Stage}
    (hn : ∀ {mid}, Line source mid reading.stage.items hi →
      Line source mid (nodes ++ stage.items) upper ∧
        ∀ keyword, reading.stage.keyword? = some keyword → Keeps keyword nodes stage) :
    (reading.add nodes stage).Placed source lo upper := by
  obtain ⟨hs, mid, hm, hline, hlast⟩ := h
  obtain ⟨hnext, hk⟩ := hn hline
  obtain ⟨cut, hnodes, hi⟩ := Line.append_iff.mp hnext
  constructor
  · refine (hs.weaken hu).append (hnodes.weaken (Nat.le_refl mid) hi.le) hm
      fun last hlst first hf => ?_
    have hfirst := (hnodes.mem (List.mem_of_head? hf)).2.1
    obtain hb | ⟨ha, rfl, hkey⟩ := hlast last hlst
    · exact .inl (hb.trans hfirst)
    · -- The part began with the keyword of the marker, so its first node does.
      obtain ⟨rest, rfl⟩ := List.head?_eq_some_iff.mp hf
      obtain ⟨hstart, hstop⟩ := hk _ hkey
      exact .inr ⟨ha, Nat.le_antisymm hfirst hstart, hstop⟩
  · cases nodes with
    | nil =>
      refine ⟨mid, hm, hnext, fun last hlst => ?_⟩
      rw [Reading.add, List.append_nil] at hlst
      obtain hb | ⟨ha, hst, hkey⟩ := hlast last hlst
      · exact .inl hb
      · exact .inr ⟨ha, hst, hk _ hkey⟩
    | cons node rest =>
      refine ⟨cut, hm.trans hnodes.le, hi, fun last hlst => .inl (hnodes.mem ?_).2.2⟩
      rw [Reading.add, List.getLast?_append, List.getLast?_cons] at hlst
      exact List.mem_of_getLast? (by rw [List.getLast?_cons]; exact hlst)

theorem Placed.complete (h : reading.Placed source lo hi) {nodes : List Tree}
    (hf : reading.stage.finish = .ok nodes) : (reading.add nodes .between).Placed source lo hi :=
  h.add (Nat.le_refl hi) fun hl => Stage.finish_line hl hf

/-- The complete nodes stand before a token, but that the last one may be an error marker at that
very token. -/
structure Ready (reading : Reading) (source : Text) (lo : Nat) (token : Token) : Prop where
  settled : InOrder source lo token.span.stop reading.children
  last : ∀ last ∈ reading.children.getLast?, last.place.stop ≤ token.span.start ∨
    AtClause last source ∧ last.place = token.span

theorem Placed.ready (h : reading.Placed source lo hi) (ht : token.Placed source)
    (hs : hi ≤ token.span.start) : reading.Ready source lo token where
  settled := h.settled.weaken (hs.trans ht.stands.ordered)
  last last hl :=
    .inl ((h.settled.within last (List.mem_of_getLast? hl)).2.2.trans hs)

theorem marker_line {span : Span} (h : span.Stands source) (fault : Fault) :
    Line source span.start [marker fault span] span.stop :=
  .cons (Nat.le_refl _) (Node.wellPlaced_leaf h (by simp)) (.nil (Nat.le_refl _))

theorem Ready.fail_settled (h : reading.Ready source lo token) (ht : token.Placed source)
    (hlo : lo ≤ token.span.start) (fault : Fault) :
    InOrder source lo token.span.stop (reading.fail fault token.span).children := by
  refine h.settled.append (marker_line ht.stands fault) hlo fun last hlst first hf => ?_
  obtain rfl := Option.some.inj hf
  refine (h.last last hlst).imp_right fun ⟨ha, he⟩ => ⟨ha, ?_⟩
  rw [he]
  exact ⟨rfl, Nat.le_refl _⟩

theorem getLast?_fail (fault : Fault) (span : Span) :
    (reading.fail fault span).children.getLast? = some (marker fault span) := by
  simp [Reading.fail, Reading.add]

theorem Ready.fail (h : reading.Ready source lo token) (ht : token.Placed source)
    (hlo : lo ≤ token.span.start) (fault : Fault) :
    (reading.fail fault token.span).Placed source lo token.span.stop where
  settled := h.fail_settled ht hlo fault
  unfinished := by
    refine ⟨token.span.stop, hlo.trans ht.stands.ordered, .nil (Nat.le_refl _), fun last hl => ?_⟩
    rw [getLast?_fail] at hl
    obtain rfl := Option.some.inj hl
    exact .inl (Nat.le_refl _)

theorem Ready.fail_ready (h : reading.Ready source lo token) (ht : token.Placed source)
    (hlo : lo ≤ token.span.start) (fault : Fault) (hc : token.lexeme.isClause) :
    (reading.fail fault token.span).Ready source lo token where
  settled := h.fail_settled ht hlo fault
  last last hl := by
    rw [getLast?_fail] at hl
    obtain rfl := Option.some.inj hl
    obtain ⟨written, hs, hw⟩ := ht.spells
    cases he : token.lexeme with
    | clause clause => exact .inr ⟨⟨rfl, clause, written, hs, he ▸ hw⟩, rfl⟩
    | _ => rw [he] at hc; cases hc

theorem Ready.resume (h : reading.Ready source lo token) (ht : token.Placed source)
    (hlo : lo ≤ token.span.start) : (reading.resume token).Placed source lo token.span.stop := by
  unfold Reading.resume
  split
  · rename_i clause _
    split
    · exact h.fail ht hlo _
    · refine ⟨h.settled, token.span.start, hlo, ?_, fun last hl => ?_⟩
      · rw [Stage.items_opening]
        exact (Line.nil (Nat.le_refl _)).snoc_mark ht (Nat.le_refl _)
      · rw [Stage.keyword?_opening]
        refine (h.last last hl).imp_right fun ⟨ha, he⟩ => ?_
        rw [he]
        exact ⟨ha, rfl, rfl⟩
  · exact h.fail ht hlo _

theorem Placed.step (h : reading.Placed source lo hi) (ht : token.Placed source)
    (hs : hi ≤ token.span.start) : (reading.step token).Placed source lo token.span.stop := by
  have hlo : lo ≤ token.span.start := h.le.trans hs
  unfold Reading.step
  split
  · rename_i nodes stage ha
    have hr := Stage.accept_eq_some_iff.mp ha
    exact h.add (hs.trans ht.stands.ordered) fun hl => ⟨hr.line hl ht hs, fun _ => hr.keeps⟩
  · split
    · rename_i nodes hf
      exact ((h.complete hf).ready ht hs).resume ht hlo
    · rename_i what _
      have hr := h.ready ht hs
      by_cases hc : token.lexeme.isClause
      · simp only [if_pos hc]
        exact (hr.fail_ready ht hlo _ hc).resume ht hlo
      · simp only [if_neg hc]
        exact hr.fail ht hlo _

theorem Placed.foldl {tokens : List Token} (h : reading.Placed source lo hi)
    (ht : ∀ token ∈ tokens, token.Placed source) (hs : ∀ token ∈ tokens, hi ≤ token.span.start)
    (hp : tokens.Pairwise fun a b => a.span.stop ≤ b.span.start) :
    (tokens.foldl Reading.step reading).Placed source lo
      ((tokens.getLast?.map fun token => token.span.stop).getD hi) := by
  induction tokens generalizing reading hi with
  | nil => exact h
  | cons token rest ih =>
    obtain ⟨hfirst, hrest⟩ := List.pairwise_cons.mp hp
    obtain ⟨htok, htoks⟩ := List.forall_mem_cons.mp ht
    have hnext := ih (h.step htok (hs token List.mem_cons_self)) htoks hfirst hrest
    rw [List.getLast?_cons]
    cases hl : rest.getLast? with
    | none => simpa [hl] using hnext
    | some last => simpa [hl] using hnext

theorem Placed.finish (h : reading.Placed source lo hi) (hc : source.IsCut hi) :
    InOrder source lo hi (reading.finish hi) := by
  unfold Reading.finish
  split
  · rename_i nodes hf
    exact (h.complete hf).settled
  · rename_i what _
    have hm := marker_line (Span.stands_point hc) (.ended what)
    refine h.settled.append hm h.le fun last hl first hf => .inl ?_
    obtain rfl := Option.some.inj hf
    exact (h.settled.within last (List.mem_of_getLast? hl)).2.2

end Reading

section Tokens
variable {source : Text} {tokens : List Token}

def stretch (tokens : List Token) : Span :=
  ⟨(tokens.head?.map fun token => token.span.start).getD 0,
    (tokens.getLast?.map fun token => token.span.stop).getD 0⟩

theorem ofTokens_place (ht : ∀ token ∈ tokens, token.Placed source)
    (hp : tokens.Pairwise fun a b => a.span.stop ≤ b.span.start) :
    (ofTokens tokens).place = stretch tokens := by
  cases tokens with
  | nil => rfl
  | cons first rest =>
    obtain ⟨hnext, -⟩ := List.pairwise_cons.mp hp
    have hfirst := (ht first List.mem_cons_self).stands.ordered
    rw [ofTokens, stretch, List.getLast?_cons]
    cases hl : rest.getLast? with
    | none => simp [Span.cover]
    | some last =>
      have hm := List.mem_of_getLast? hl
      have hlast := (ht last (List.mem_cons_of_mem first hm)).stands.ordered
      have hafter := hnext last hm
      have hs : first.span.start ≤ last.span.start := by omega
      have he : first.span.stop ≤ last.span.stop := by omega
      simp [Span.cover, hs, he]

theorem stretch_start_le (ht : ∀ token ∈ tokens, token.Placed source)
    (hp : tokens.Pairwise fun a b => a.span.stop ≤ b.span.start) :
    ∀ token ∈ tokens, (stretch tokens).start ≤ token.span.start := by
  cases tokens with
  | nil => simp
  | cons first rest =>
    have hfirst := (ht first List.mem_cons_self).stands.ordered
    refine List.forall_mem_cons.mpr ⟨Nat.le_refl _, fun token hm => ?_⟩
    exact hfirst.trans ((List.pairwise_cons.mp hp).1 token hm)

theorem isCut_stretch (ht : ∀ token ∈ tokens, token.Placed source) :
    source.IsCut (stretch tokens).start ∧ source.IsCut (stretch tokens).stop := by
  have hzero : source.IsCut 0 := ⟨[], source, rfl, rfl⟩
  constructor
  · cases hf : tokens.head? with
    | none => simpa [stretch, hf] using hzero
    | some first => simpa [stretch, hf] using (ht first (List.mem_of_head? hf)).stands.start
  · cases hl : tokens.getLast? with
    | none => simpa [stretch, hl] using hzero
    | some last => simpa [stretch, hl] using (ht last (List.mem_of_getLast? hl)).stands.stop

theorem ofTokens_children :
    (ofTokens tokens).children =
      (tokens.foldl Reading.step .start).finish (stretch tokens).stop := by
  cases hl : tokens.getLast? <;> simp only [ofTokens, stretch, hl] <;> rfl

theorem ofTokens_inOrder (ht : ∀ token ∈ tokens, token.Placed source)
    (hp : tokens.Pairwise fun a b => a.span.stop ≤ b.span.start) :
    (stretch tokens).Stands source ∧
      InOrder source (stretch tokens).start (stretch tokens).stop (ofTokens tokens).children := by
  have hlast : (tokens.getLast?.map fun token => token.span.stop).getD (stretch tokens).start =
      (stretch tokens).stop := by
    cases tokens with
    | nil => rfl
    | cons first rest => rw [stretch, List.getLast?_cons]; rfl
  have hread := (Reading.placed_start source (stretch tokens).start).foldl ht
    (stretch_start_le ht hp) hp
  rw [hlast] at hread
  obtain ⟨hstart, hstop⟩ := isCut_stretch ht
  rw [ofTokens_children]
  exact ⟨⟨hread.le, hstart, hstop⟩, hread.finish hstop⟩

theorem ofText_inOrder (source : Text) :
    (∀ node ∈ (ofText source).preorder, node.Placed source) ∧
      InOrder source (ofText source).place.start (ofText source).place.stop
        (ofText source).children := by
  have ht : ∀ token ∈ Token.ofText source, token.Placed source := fun _ => Token.Placed.ofText
  have hp := (Token.layout_ofText source).pairwise
  obtain ⟨hs, ho⟩ := ofTokens_inOrder ht hp
  rw [← ofTokens_place ht hp] at hs ho
  refine ⟨?_, ho⟩
  rw [Node.preorder_eq, List.forall_mem_cons]
  refine ⟨⟨hs, fun child hm => (ho.within child hm).2, by simp [ofText, ofTokens]⟩, ?_⟩
  intro node hn
  obtain ⟨child, hm, hn⟩ := List.mem_flatMap.mp hn
  exact ((ho.within child hm).1 node hn).1

end Tokens

theorem caretLine_parts (before written after : Text) :
    Span.caretLine ⟨before.byteLength, before.byteLength + written.byteLength⟩
        (before ++ (written ++ after)) =
      List.replicate before.length ' ' ++ List.replicate (max written.length 1) '^' := by
  simp [Span.caretLine, splitAt?_append, slice?_append]

/-- Source positions fit all through the tree of a text, error markers included. Every node is a
part of the text around its children, and a literal is what is written there. The children of a node
follow one another, but that an error marker at a clause keyword is followed by what reading makes
of that keyword. So there are carets under every syntax error, as many as the characters it is
about. -/
theorem places_fit_source (source : Text) :
    (∀ node ∈ (ofText source).preorder,
      node.Placed source ∧ node.place.stop ≤ source.byteLength) ∧
    (∀ child ∈ (ofText source).children, ∀ node ∈ child.preorder,
      node.children.IsChain Node.Precedes) ∧
    (ofText source).children.IsChain (Follows source) ∧
    ∀ message span, Query.ofText source = .error (.unreadable message span) →
      ∃ before written after, source = before ++ (written ++ after) ∧
        splitAt? span.start source = some (before, written ++ after) ∧
        source.slice? span.start span.stop = some written ∧
        span.caretLine source =
          List.replicate before.length ' ' ++ List.replicate (max written.length 1) '^' := by
  obtain ⟨hplaced, hwithin, hchain⟩ := ofText_inOrder source
  refine ⟨fun node hm => ⟨hplaced node hm, (hplaced node hm).stands.stop.le⟩,
    fun child hc node hm => ((hwithin child hc).1 node hm).2, hchain, fun message span he => ?_⟩
  have ho := Query.outcome_of_tokens (Token.ofText source)
  rw [← ofText, ← Query.ofText, he] at ho
  cases ho with
  | @unreadable marker hm =>
    have hfound := Node.firstMarker?_eq_find? (ofText source)
    rw [ofText, hm] at hfound
    have hstands := (hplaced marker (List.mem_of_find?_eq_some hfound.symm)).stands
    obtain ⟨before, written, after, hs, hspan⟩ := hstands.exists_parts
    refine ⟨before, written, after, hs, ?_⟩
    rw [hspan, hs]
    exact ⟨splitAt?_append before _, slice?_append before written after,
      caretLine_parts before written after⟩

/-- The exception is needed: where a clause keyword stands in the place of a field, the marker and
the clause both start with the keyword. -/
theorem marker_overlaps_clause :
    ¬∀ node ∈ (ofText "SELECT FROM b".toList).preorder, node.children.IsChain Node.Precedes := by
  unfold Node.Precedes
  decide +kernel

end Tree
end EntityQuery
