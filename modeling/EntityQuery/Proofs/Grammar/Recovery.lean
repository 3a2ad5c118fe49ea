import EntityQuery.Proofs.Grammar.Recognition

/-! What a tree consists of, whether or not it was read without a fault. A clause that is read after
an error marker is read like any other, so below the root there are names, the wildcard, complete
clauses and error markers, and nothing else. -/
namespace EntityQuery
open Grammar

namespace Grammar

/-- A node that can stand below the root. -/
inductive Piece : Tree → Prop where
  | name (name : Name) : Piece name.tree
  | wildcard : Piece (.leaf .wildcard ['*'] default)
  | part (part : Part) : Piece part.tree
  | marker (fault : Fault) : Piece (Tree.marker fault default)

theorem Sentence.trees_pieces (s : Sentence) : ∀ node ∈ s.trees, Piece node := by
  simp only [trees, List.forall_mem_append]
  constructor
  · cases s.projection with
    | all =>
      intro node hn
      obtain rfl := List.mem_singleton.mp hn
      exact .wildcard
    | names list =>
      change ∀ node ∈ (list.first :: list.more).map Name.tree, Piece node
      exact List.forall_mem_map.mpr fun name _ => .name name
  · exact List.forall_mem_map.mpr fun part _ => .part part

theorem Piece.tree_marker {node : Tree} (h : Piece node) (hk : node.kind ≠ .errorMarker) :
    node.firstMarker? = none := by
  cases h with
  | name name => exact name.tree_marker
  | wildcard => rfl
  | part part => exact part.tree_marker
  | marker fault => exact absurd rfl hk

end Grammar

namespace Tree.Reading

theorem Reads.pieces {reading : Reading} {lexemes : List Lexeme} (h : reading.Reads lexemes) :
    ∀ node ∈ reading.children, Piece node := by
  cases h with
  | @between s rank h => exact s.trees_pieces
  | @within s clause stage lexemes h hs => exact s.trees_pieces
  | _ => exact fun node hn => absurd hn (by simp [start])

/-- Whether the part that is being read was read without a fault since it began, whatever was read
before it. -/
def Sound (stage : Stage) : Prop :=
  stage = .skipping ∨ ∃ children rank lexemes, Reads ⟨children, rank, stage⟩ lexemes

/-- All nodes so far are pieces, and the part that is being read gives pieces. -/
def Formed (reading : Reading) : Prop :=
  (∀ node ∈ reading.children, Piece node) ∧ Sound reading.stage

variable {reading : Reading} {stage next : Stage} {nodes : List Tree}

theorem Sound.accept {lexeme : Lexeme} (h : Sound stage)
    (ha : stage.accept lexeme.token = some (nodes, next)) :
    (∀ node ∈ nodes, Piece node) ∧ Sound next := by
  rcases h with rfl | ⟨children, rank, lexemes, h⟩
  · cases Stage.accept_eq_some_iff.mp ha
    exact ⟨by simp, .inl rfl⟩
  · have hr := h.accept ha
    exact ⟨fun node hn => hr.pieces node (List.mem_append_right _ hn), .inr ⟨_, _, _, hr⟩⟩

theorem Sound.finish (h : Sound stage) (hf : stage.finish = .ok nodes) :
    ∀ node ∈ nodes, Piece node := by
  rcases h with rfl | ⟨children, rank, lexemes, h⟩
  · obtain rfl := Except.ok.inj hf
    simp
  · obtain ⟨s, ht, -, -⟩ := h.settle hf
    intro node hn
    exact s.trees_pieces node (by rw [ht]; exact List.mem_append_right _ hn)

/-- A clause can begin anywhere: what it is read into does not hang on what came before. -/
theorem sound_opening (clause : Clause) : Sound (.opening default clause) :=
  .inr ⟨_, _, _, .within (Projection.all.sentence_below _) (Stage.reads_opening clause)⟩

theorem formed_fail (h : ∀ node ∈ reading.children, Piece node) (fault : Fault) :
    (reading.fail fault default).Formed := by
  refine ⟨?_, .inl rfl⟩
  simp only [fail, add, List.forall_mem_append, List.forall_mem_singleton]
  exact ⟨h, .marker fault⟩

theorem formed_resume (h : ∀ node ∈ reading.children, Piece node) (lexeme : Lexeme) :
    (reading.resume lexeme.token).Formed := by
  unfold resume
  split
  · split
    · exact formed_fail h _
    · exact ⟨h, sound_opening _⟩
  · exact formed_fail h _

theorem Formed.step (h : reading.Formed) (lexeme : Lexeme) :
    (reading.step lexeme.token).Formed := by
  obtain ⟨hc, hs⟩ := h
  unfold Reading.step
  cases ha : reading.stage.accept lexeme.token with
  | some accepted =>
    obtain ⟨hn, hnext⟩ := hs.accept ha
    exact ⟨List.forall_mem_append.mpr ⟨hc, hn⟩, hnext⟩
  | none =>
    cases hf : reading.stage.finish with
    | ok nodes => exact formed_resume (List.forall_mem_append.mpr ⟨hc, hs.finish hf⟩) lexeme
    | error what =>
      have hfail := formed_fail hc (.unmet what lexeme.token.lexeme)
      dsimp only
      split
      · exact formed_resume hfail.1 lexeme
      · exact hfail

theorem Formed.run (h : reading.Formed) (lexemes : List Lexeme) :
    (reading.run lexemes).Formed := by
  induction lexemes generalizing reading with
  | nil => exact h
  | cons lexeme rest ih => exact ih (h.step lexeme)

theorem Formed.finish (h : reading.Formed) : ∀ node ∈ reading.finish 0, Piece node := by
  obtain ⟨hc, hs⟩ := h
  unfold Reading.finish
  cases hf : reading.stage.finish with
  | ok nodes => exact List.forall_mem_append.mpr ⟨hc, hs.finish hf⟩
  | error what =>
    refine List.forall_mem_append.mpr ⟨hc, fun node hn => ?_⟩
    obtain rfl := List.mem_singleton.mp hn
    exact .marker (.ended what)

end Tree.Reading

namespace Tree

theorem ofLexemes_pieces (lexemes : List Lexeme) :
    ∀ node ∈ (ofLexemes lexemes).children, Piece node := by
  have hs : Reading.Formed .start := ⟨by simp [Reading.start], .inr ⟨_, _, _, .nothing⟩⟩
  rw [ofLexemes_eq]
  exact (hs.run lexemes).finish

theorem firstMarker?_of_children {lexemes : List Lexeme}
    (h : ∀ node ∈ (ofLexemes lexemes).children, node.kind ≠ .errorMarker) :
    (ofLexemes lexemes).firstMarker? = none := by
  have hp := ofLexemes_pieces lexemes
  have hm : ∀ node ∈ (ofLexemes lexemes).children, node.firstMarker? = none :=
    fun node hn => (hp node hn).tree_marker (h node hn)
  rw [ofLexemes_eq] at hm ⊢
  simp [Node.firstMarker?, firstMarkerOf?_none hm]

end Tree
end EntityQuery
