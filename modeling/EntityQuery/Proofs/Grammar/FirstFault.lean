import Mathlib.Data.List.Induction
import EntityQuery.Proofs.Grammar.Viable

/-! Where the first error marker stands. A step adds the nodes that are complete with it, and error
markers at the place of its token; so the first marker of a tree stands at the first token that is
not read, and that is the first one with which no sentence goes on. -/
namespace EntityQuery
open Grammar

namespace Node
variable {ρ σ : Type}

theorem firstMarkerOf?_append (before after : List (Node ρ)) :
    firstMarkerOf? (before ++ after) = (firstMarkerOf? before).or (firstMarkerOf? after) := by
  induction before with
  | nil => rfl
  | cons node rest ih => rw [List.cons_append, firstMarkerOf?, firstMarkerOf?, ih, Option.or_assoc]

theorem firstMarkerOf?_map (f : ρ → σ) (nodes : List (Node ρ)) :
    firstMarkerOf? (nodes.map (map f)) = (firstMarkerOf? nodes).map (map f) := by
  induction nodes with
  | nil => rfl
  | cons node rest ih =>
    rw [List.map_cons, firstMarkerOf?, firstMarkerOf?, ih, firstMarker?_map]
    cases node.firstMarker? <;> rfl

end Node

namespace Tree

theorem firstMarkerOf?_unplaced {nodes : List Tree} :
    Node.firstMarkerOf? (nodes.map Node.unplaced) = none ↔ Node.firstMarkerOf? nodes = none := by
  have h := Node.firstMarkerOf?_map (fun _ => (default : Span)) nodes
  rw [show nodes.map Node.unplaced = nodes.map (Node.map fun _ => default) from rfl, h,
    Option.map_eq_none_iff]

theorem firstMarkerOf?_marker (fault : Fault) (span : Span) (more : List Tree) :
    Node.firstMarkerOf? (marker fault span :: more) = some (marker fault span) := by
  simp [Node.firstMarkerOf?, marker, Node.leaf, Node.firstMarker?]

namespace Reading

theorem Reads.unmarked {reading : Reading} {lexemes : List Lexeme} (h : reading.Reads lexemes) :
    Node.firstMarkerOf? reading.children = none := by
  cases h with
  | between h => exact Sentence.trees_marker _
  | within h hs => exact Sentence.trees_marker _
  | _ => rfl

variable {reading : Reading} {lexemes : List Lexeme}

theorem Completes.unmarked {token : Token} {nodes : List Tree} (h : reading.Completes token nodes)
    (hr : reading.unplaced.Reads lexemes) :
    Node.firstMarkerOf? (reading.children ++ nodes) = none := by
  rw [← firstMarkerOf?_unplaced, List.map_append]
  rcases h with rfl | hf | ⟨stage, ha⟩
  · rw [List.map_nil, List.append_nil]
    exact hr.unmarked
  · have hu : reading.unplaced.stage.finish = .ok (nodes.map Node.unplaced) := by
      rw [unplaced, Stage.finish_unplaced, hf]
      rfl
    obtain ⟨s, ht, -, -⟩ := hr.settle hu
    have hm := s.trees_marker
    rwa [ht] at hm
  · have hu : reading.unplaced.stage.accept token.lexeme.token =
        some (nodes.map Node.unplaced, stage.unplaced) := by
      rw [unplaced, Stage.accept_unplaced, ha]
      rfl
    exact (hr.accept hu).unmarked

theorem marked_unplaced {nodes : List Tree} (h : Marked (nodes.map Node.unplaced)) :
    Node.firstMarkerOf? nodes ≠ none := by
  intro hn
  refine @firstMarker?_ne_none .select [] default _ h ?_
  simpa [Node.firstMarker?] using firstMarkerOf?_unplaced.mpr hn

/-- A token is read, or the first error marker is put at its place. -/
theorem step_fault (h : reading.unplaced.Reads lexemes) (token : Token) :
    (reading.step token).unplaced.Reads (lexemes ++ [token.lexeme]) ∨
      ∃ fault, Node.firstMarkerOf? (reading.step token).children =
        some (marker fault token.span) := by
  rcases h.step token.lexeme with hr | hm
  · rw [step_unplaced] at hr
    exact .inl hr
  · rw [step_unplaced] at hm
    obtain ⟨nodes, faults, hs, hc⟩ := step_adds reading token
    have hn := marked_unplaced hm
    rw [hs, Node.firstMarkerOf?_append, hc.unmarked h, Option.none_or] at hn ⊢
    cases faults with
    | nil => exact absurd rfl hn
    | cons fault more => exact .inr ⟨fault, firstMarkerOf?_marker fault token.span _⟩

theorem reads_tokens {tokens : List Token} (h : Viable (tokens.map Token.lexeme)) :
    (tokens.foldl step start).unplaced.Reads (tokens.map Token.lexeme) := by
  rw [← run_unplaced]
  exact viable_iff_reads.mp h

end Reading

theorem exists_first_fault {tokens : List Token} (h : ¬Viable (tokens.map Token.lexeme)) :
    ∃ before token after, tokens = before ++ token :: after ∧
      Viable (before.map Token.lexeme) ∧ ¬Viable ((before ++ [token]).map Token.lexeme) := by
  induction tokens using List.reverseRecOn with
  | nil => exact absurd Reading.Reads.nothing.viable h
  | append_singleton tokens token ih =>
    by_cases hv : Viable (tokens.map Token.lexeme)
    · exact ⟨tokens, token, [], rfl, hv, h⟩
    · obtain ⟨before, first, after, rfl, hb, hf⟩ := ih hv
      exact ⟨before, first, after ++ [token], by simp, hb, hf⟩

def endOf (tokens : List Token) : Nat :=
  (tokens.getLast?.map fun token => token.span.stop).getD 0

theorem finish_endOf (tokens : List Token) (reading : Reading) :
    reading.finish ((tokens.getLast?.map Token.span).getD default).stop =
      reading.finish (endOf tokens) := by
  rw [endOf]
  cases tokens.getLast? <;> rfl

theorem firstMarker?_ofTokens (tokens : List Token) :
    (ofTokens tokens).firstMarker? =
      Node.firstMarkerOf? ((tokens.foldl Reading.step .start).finish (endOf tokens)) := by
  rw [← finish_endOf]
  simp [ofTokens, Node.firstMarker?]

theorem firstMarker?_of_viable {tokens : List Token} (hv : Viable (tokens.map Token.lexeme))
    (h : ¬∃ s : Sentence, s.lexemes = tokens.map Token.lexeme) :
    ∃ what, (ofTokens tokens).firstMarker? =
      some (marker (.ended what) (.point (endOf tokens))) := by
  have hr := Reading.reads_tokens hv
  rw [firstMarker?_ofTokens, Reading.finish]
  cases hf : (tokens.foldl Reading.step .start).stage.finish with
  | error what =>
    have hn := firstMarkerOf?_unplaced.mp hr.unmarked
    exact ⟨what, by rw [Node.firstMarkerOf?_append, hn, Option.none_or, firstMarkerOf?_marker]⟩
  | ok nodes =>
    have hu := Stage.finish_unplaced (tokens.foldl Reading.step .start).stage
    rw [hf] at hu
    obtain ⟨s, -, hl, -⟩ := hr.settle hu
    exact absurd ⟨s, hl⟩ h

theorem firstMarker?_of_unviable {before : List Token} {token : Token} (after : List Token)
    (hv : Viable (before.map Token.lexeme))
    (h : ¬Viable ((before ++ [token]).map Token.lexeme)) :
    ∃ fault, (ofTokens (before ++ token :: after)).firstMarker? =
      some (marker fault token.span) := by
  rcases Reading.step_fault (Reading.reads_tokens hv) token with hr | ⟨fault, hm⟩
  · exact absurd (by simpa using hr.viable) h
  · obtain ⟨more, hc⟩ :=
      Reading.foldl_children after ((before.foldl Reading.step .start).step token)
    refine ⟨fault, ?_⟩
    rw [firstMarker?_ofTokens, List.foldl_append, List.foldl_cons, Reading.finish]
    split
    · rw [hc, List.append_assoc, Node.firstMarkerOf?_append, hm, Option.some_or]
    · rw [hc, List.append_assoc, Node.firstMarkerOf?_append, hm, Option.some_or]

/-- Faults are reported as early as they can be: at the first token with which no sentence goes on,
or at the end if the tokens are the start of a sentence but not a whole one. -/
theorem first_marker_earliest (tokens : List Token)
    (h : ¬∃ s : Sentence, s.lexemes = tokens.map Token.lexeme) :
    ∃ fault place, (ofTokens tokens).firstMarker? = some (marker fault place) ∧
      ((Viable (tokens.map Token.lexeme) ∧ place = .point (endOf tokens)) ∨
        ∃ before token after, tokens = before ++ token :: after ∧
          Viable (before.map Token.lexeme) ∧ ¬Viable ((before ++ [token]).map Token.lexeme) ∧
          place = token.span) := by
  by_cases hv : Viable (tokens.map Token.lexeme)
  · obtain ⟨what, hm⟩ := firstMarker?_of_viable hv h
    exact ⟨.ended what, _, hm, .inl ⟨hv, rfl⟩⟩
  · obtain ⟨before, token, after, rfl, hb, hf⟩ := exists_first_fault hv
    obtain ⟨fault, hm⟩ := firstMarker?_of_unviable after hb hf
    exact ⟨fault, token.span, hm, .inr ⟨before, token, after, rfl, hb, hf, rfl⟩⟩

theorem not_sentence_of_marker {tokens : List Token} (h : (ofTokens tokens).firstMarker? ≠ none) :
    ¬∃ s : Sentence, s.lexemes = tokens.map Token.lexeme := by
  rintro ⟨s, hs⟩
  rw [Ne, ofTokens_marker, ← hs, s.read] at h
  exact h s.tree_marker

theorem first_marker_earliest_unclosed :
    ∃ before token after, Token.ofText "SELECT a WHERE (b = 1 LIMIT 5".toList =
      before ++ token :: after ∧ token.span = ⟨22, 27⟩ ∧ Viable (before.map Token.lexeme) ∧
      ¬Viable ((before ++ [token]).map Token.lexeme) := by
  have hplace : (ofText "SELECT a WHERE (b = 1 LIMIT 5".toList).firstMarker?.map Node.place =
      some ⟨22, 27⟩ := by
    decide +kernel
  have hs : ¬∃ s : Sentence, s.lexemes =
      (Token.ofText "SELECT a WHERE (b = 1 LIMIT 5".toList).map Token.lexeme :=
    not_sentence_of_marker (by decide +kernel)
  obtain ⟨fault, place, hm, ⟨-, hp⟩ | ⟨before, token, after, he, hb, hf, hp⟩⟩ :=
    first_marker_earliest _ hs
  · rw [ofText, hm, hp] at hplace
    have hend : Span.point (endOf (Token.ofText "SELECT a WHERE (b = 1 LIMIT 5".toList)) ≠
        ⟨22, 27⟩ := by
      decide +kernel
    exact absurd (Option.some.inj hplace) hend
  · rw [ofText, hm, hp] at hplace
    exact ⟨before, token, after, he, Option.some.inj hplace, hb, hf⟩

end Tree
end EntityQuery
