import EntityQuery.Proofs.Grammar.Recognition

/-! Starts of sentences. What has been read without a fault can be completed to a sentence, and the
start of a sentence is read without a fault. So the first error marker stands at the first token
with which no sentence goes on, or at the end of the tokens if there is no such token. -/
namespace EntityQuery
open Grammar

namespace Grammar

/-- Whether the lexemes are the start of a sentence. -/
def Viable (lexemes : List Lexeme) : Prop :=
  ∃ (s : Sentence) (rest : List Lexeme), s.lexemes = lexemes ++ rest

def Name.any : Name :=
  .bare []

def Comparison.any : Comparison :=
  ⟨.any, .eq, .null⟩

theorem Sentence.trees_marker (s : Sentence) : Node.firstMarkerOf? s.trees = none := by
  simpa [tree, Node.firstMarker?] using s.tree_marker

end Grammar

namespace Condition

theorem Joined.Reads.completes {joined : Joined} {lexemes : List Lexeme}
    (h : joined.Reads lexemes) :
    ∃ (rest : List Lexeme) (w : Phrase .disjunction), w.lexemes = lexemes ++ rest := by
  obtain ⟨enclosure, alternative, conjunct⟩ := joined
  induction enclosure generalizing alternative conjunct lexemes with
  | nil =>
    obtain ⟨w, -, hw⟩ := h.complete rfl
    exact ⟨[], w, by rw [hw, List.append_nil]⟩
  | cons bracket outer ih =>
    obtain ⟨rest, w, hw⟩ := ih _ _ (h.leave rfl)
    exact ⟨.closeParen :: rest, w, by rw [hw, List.append_assoc, List.singleton_append]⟩

theorem Due.Reads.completes {due : Due} {lexemes : List Lexeme} (h : due.Reads lexemes)
    (c : Comparison) :
    ∃ (rest : List Lexeme) (w : Phrase .disjunction), w.lexemes = lexemes ++ c.lexemes ++ rest :=
  (h.take (.comparison c)).completes

end Condition

namespace Tree

theorem Stage.Reads.completes {clause : Clause} {stage : Stage} {lexemes : List Lexeme}
    (h : stage.Reads clause lexemes) :
    ∃ (rest : List Lexeme) (part : Part), part.clause = clause ∧
      part.lexemes = .clause clause :: lexemes ++ rest := by
  cases h with
  | entity => exact ⟨[Name.any.lexeme], .source .any, rfl, rfl⟩
  | operand h =>
    obtain ⟨rest, w, hw⟩ := h.completes .any
    exact ⟨Comparison.any.lexemes ++ rest, .filter w, rfl, by simp [Part.lexemes, hw]⟩
  | comparator h field =>
    obtain ⟨rest, w, hw⟩ := h.completes ⟨field, .eq, .null⟩
    exact ⟨.comparator .eq :: .null :: rest, .filter w, rfl, by
      simp [Part.lexemes, hw, Comparison.lexemes, Literal.lexeme]⟩
  | value h field op =>
    obtain ⟨rest, w, hw⟩ := h.completes ⟨field, op, .null⟩
    exact ⟨.null :: rest, .filter w, rfl, by
      simp [Part.lexemes, hw, Comparison.lexemes, Literal.lexeme]⟩
  | joined h =>
    obtain ⟨rest, w, hw⟩ := h.completes
    exact ⟨rest, .filter w, rfl, by simp [Part.lexemes, hw]⟩
  | byWord =>
    exact ⟨[.byWord, Name.any.lexeme], .ordering ⟨⟨.any, []⟩, none⟩, rfl, rfl⟩
  | firstName => exact ⟨[Name.any.lexeme], .ordering ⟨⟨.any, []⟩, none⟩, rfl, rfl⟩
  | nextName names =>
    obtain ⟨longer, -, hl⟩ := names_concat names .any
    exact ⟨[Name.any.lexeme], .ordering ⟨longer, none⟩, rfl, by
      simp [Part.lexemes, Ordering.lexemes, hl]⟩
  | @names names init last h =>
    exact ⟨[], .ordering ⟨names, none⟩, rfl, by simp [Part.lexemes, Ordering.lexemes]⟩
  | limit => exact ⟨[.literal .integer []], .limit [], rfl, rfl⟩
  | offset => exact ⟨[.literal .integer []], .offset [], rfl, rfl⟩

namespace Reading

theorem Reads.viable {reading : Reading} {lexemes : List Lexeme} (h : reading.Reads lexemes) :
    Viable lexemes := by
  have hp (projection : Projection) : projection.sentence.lexemes = .select :: projection.lexemes :=
    by simp [Projection.sentence, Sentence.lexemes, Sentence.parts]
  cases h with
  | nothing => exact ⟨Projection.all.sentence, _, rfl⟩
  | firstField => exact ⟨Projection.all.sentence, [.star], hp .all⟩
  | nextField names =>
    obtain ⟨longer, -, hl⟩ := names_concat names .any
    exact ⟨(Projection.names longer).sentence, [Name.any.lexeme], by
      simp [hp, Projection.lexemes, hl]⟩
  | @fields names init last h =>
    exact ⟨(Projection.names names).sentence, [], by simp [hp, Projection.lexemes]⟩
  | @between s rank h => exact ⟨s, [], by simp⟩
  | @within s clause stage lexemes h hs =>
    obtain ⟨rest, part, rfl, hl⟩ := hs.completes
    obtain ⟨longer, -, hx, -⟩ := extend h
    exact ⟨longer, rest, by simp [hx, hl]⟩

theorem not_marked_of_viable {lexemes : List Lexeme} (h : Viable lexemes) :
    ¬Marked (start.run lexemes).children := by
  obtain ⟨s, rest, hs⟩ := h
  intro hm
  have hr := s.read
  rw [hs, ofLexemes_eq, run_append] at hr
  have hn := s.tree_marker
  rw [← hr] at hn
  obtain ⟨more, hc⟩ := run_children rest (start.run lexemes)
  refine firstMarker?_ne_none ?_ hn
  unfold Reading.finish
  split
  · rw [hc, List.append_assoc]
    exact hm.append _
  · rw [hc, List.append_assoc]
    exact hm.append _

theorem viable_iff_reads {lexemes : List Lexeme} :
    Viable lexemes ↔ (start.run lexemes).Reads lexemes := by
  refine ⟨fun h => ?_, Reads.viable⟩
  rcases Reads.nothing.run lexemes with hr | hm
  · simpa using hr
  · exact absurd hm (not_marked_of_viable h)

end Reading
end Tree
end EntityQuery
