import Mathlib.Data.List.Basic
import EntityQuery.Query.OfTree

/-! What a connective makes of its operands. It joins them from left to right, and it fails exactly
if one of them fails, with the error of the first that does. -/
namespace EntityQuery.Expression
variable {ρ : Type}

inductive Connects : NodeKind → (Expression → Expression → Expression) → Prop where
  | and : Connects .and and
  | or : Connects .or or

/-- The first of some nodes that is no condition has the error `e`. -/
def FirstFails (nodes : List (Node ρ)) (e : CompileError ρ) : Prop :=
  ∃ before bad after, nodes = before ++ bad :: after ∧
    (∀ good ∈ before, ∃ condition, ofNode good = .ok condition) ∧ ofNode bad = .error e

variable {nodes others : List (Node ρ)} {connective : NodeKind} {text : Text} {place : ρ}
  {combine : Expression → Expression → Expression} {e : CompileError ρ}

theorem ofNodes_append (nodes others : List (Node ρ)) : ofNodes (nodes ++ others) =
    (ofNodes nodes).bind fun first => (ofNodes others).map (first ++ ·) := by
  induction nodes with
  | nil =>
    rw [List.nil_append, ofNodes]
    cases ofNodes others <;> rfl
  | cons node rest ih =>
    rw [List.cons_append, ofNodes, ofNodes, ih]
    cases ofNode node with
    | error e => rfl
    | ok condition =>
      cases ofNodes rest with
      | error e => rfl
      | ok conditions => cases ofNodes others <;> rfl

theorem ofNodes_length {conditions : List Expression} (h : ofNodes nodes = .ok conditions) :
    conditions.length = nodes.length := by
  induction nodes generalizing conditions with
  | nil =>
    obtain rfl := Except.ok.inj h
    rfl
  | cons node rest ih =>
    rw [ofNodes] at h
    cases hn : ofNode node with
    | error e => simp [hn] at h
    | ok condition =>
      cases hr : ofNodes rest with
      | error e => simp [hn, hr, Except.map] at h
      | ok more =>
        obtain rfl : condition :: more = conditions := by simpa [hn, hr, Except.map] using h
        rw [List.length_cons, List.length_cons, ih hr]

theorem not_firstFails_nil : ¬FirstFails ([] : List (Node ρ)) e := by
  rintro ⟨before, bad, after, h, -⟩
  simp at h

theorem firstFails_cons_error {node : Node ρ} {first : CompileError ρ}
    (h : ofNode node = .error first) (rest : List (Node ρ)) :
    FirstFails (node :: rest) e ↔ first = e := by
  constructor
  · rintro ⟨before, bad, after, hs, hb, he⟩
    cases before with
    | nil =>
      obtain ⟨rfl, -⟩ := List.cons.inj hs
      exact Except.error.inj (h.symm.trans he)
    | cons good more =>
      obtain ⟨rfl, -⟩ := List.cons.inj hs
      obtain ⟨condition, hc⟩ := hb node List.mem_cons_self
      cases h.symm.trans hc
  · rintro rfl
    exact ⟨[], node, rest, rfl, by simp, h⟩

theorem firstFails_cons_ok {node : Node ρ} {condition : Expression}
    (h : ofNode node = .ok condition) (rest : List (Node ρ)) :
    FirstFails (node :: rest) e ↔ FirstFails rest e := by
  constructor
  · rintro ⟨before, bad, after, hs, hb, he⟩
    cases before with
    | nil =>
      obtain ⟨rfl, -⟩ := List.cons.inj hs
      cases h.symm.trans he
    | cons good more =>
      obtain ⟨-, ht⟩ := List.cons.inj hs
      exact ⟨more, bad, after, ht, fun g hg => hb g (List.mem_cons_of_mem _ hg), he⟩
  · rintro ⟨before, bad, after, rfl, hb, he⟩
    exact ⟨node :: before, bad, after, rfl, List.forall_mem_cons.mpr ⟨⟨condition, h⟩, hb⟩, he⟩

theorem ofNodes_error_iff : ofNodes nodes = .error e ↔ FirstFails nodes e := by
  induction nodes with
  | nil => exact iff_of_false (fun h => nomatch h) not_firstFails_nil
  | cons node rest ih =>
    rw [ofNodes]
    cases hn : ofNode node with
    | error first => rw [firstFails_cons_error hn, Except.error.injEq]
    | ok condition =>
      rw [firstFails_cons_ok hn, ← ih]
      cases ofNodes rest <;> simp [Except.map]

theorem ofNode_connective (h : Connects connective combine) (hl : 2 ≤ nodes.length) :
    ofNode ⟨connective, text, place, nodes⟩ = (ofNodes nodes).bind (join combine connective) := by
  have hn : ¬nodes.length < 2 := Nat.not_lt.mpr hl
  cases h with
  | and => rw [ofNode, if_neg hn]
  | or => rw [ofNode, if_neg hn]

theorem ofNode_few (h : Connects connective combine) (hl : nodes.length < 2) :
    ofNode ⟨connective, text, place, nodes⟩ = .error (.malformed (.operands connective)) := by
  cases h with
  | and => rw [ofNode, if_pos hl]
  | or => rw [ofNode, if_pos hl]

theorem exists_join {conditions : List Expression} (hl : 2 ≤ conditions.length) :
    ∃ joined, (join combine connective conditions : Except (CompileError ρ) Expression) =
      .ok joined := by
  match conditions, hl with
  | first :: second :: rest, _ => exact ⟨rest.foldl combine (combine first second), rfl⟩

theorem ofNode_connective_error_iff (h : Connects connective combine) (hl : 2 ≤ nodes.length) :
    ofNode ⟨connective, text, place, nodes⟩ = .error e ↔ FirstFails nodes e := by
  rw [ofNode_connective h hl, ← ofNodes_error_iff]
  cases hn : ofNodes nodes with
  | error first => rw [Except.bind, Except.error.injEq, Except.error.injEq]
  | ok conditions =>
    obtain ⟨joined, hj⟩ := @exists_join ρ connective combine conditions (by rwa [ofNodes_length hn])
    simp [Except.bind, hj]

theorem join_concat {conditions : List Expression} (hl : 2 ≤ conditions.length)
    (last : Expression) :
    (join combine connective (conditions ++ [last]) : Except (CompileError ρ) Expression) =
      (join combine connective conditions).map fun joined => combine joined last := by
  match conditions, hl with
  | first :: second :: rest, _ => simp [join, Except.map]

end EntityQuery.Expression
