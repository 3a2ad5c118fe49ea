import EntityQuery.Proofs.Grammar.Reading

/-! What has been read without a fault is the start of a sentence. The relations below say for
each state which lexemes lead to it; every step keeps them or leaves an error marker. -/
namespace EntityQuery
open Grammar

namespace Condition

/-- What waits since the innermost bracket, and the lexemes it was read from. -/
inductive Pending.Reads : Pending → List Lexeme → Prop where
  | nothing : Reads ⟨none, none, []⟩ []
  | or (left : Phrase .disjunction) : Reads ⟨some left.tree, none, []⟩ (left.lexemes ++ [.or])
  | and {alternative : Option Tree} {lexemes : List Lexeme}
      (h : Reads ⟨alternative, none, []⟩ lexemes) (left : Phrase .conjunction) :
    Reads ⟨alternative, some left.tree, []⟩ (lexemes ++ left.lexemes ++ [.and])
  | not {alternative conjunct : Option Tree} {negations : List Span} {lexemes : List Lexeme}
      (h : Reads ⟨alternative, conjunct, negations⟩ lexemes) :
    Reads ⟨alternative, conjunct, default :: negations⟩ (lexemes ++ [.not])

inductive Due.Reads : Due → List Lexeme → Prop where
  | outermost {pending : Pending} {lexemes : List Lexeme} (h : pending.Reads lexemes) :
    Reads ⟨[], pending⟩ lexemes
  | within {enclosure : Enclosure} {outer inner : Pending} {before lexemes : List Lexeme}
      (ho : Reads ⟨enclosure, outer⟩ before) (hi : inner.Reads lexemes) :
    Reads ⟨(default, outer) :: enclosure, inner⟩ (before ++ .openParen :: lexemes)

theorem Pending.Reads.take {pending : Pending} {lexemes : List Lexeme} (h : pending.Reads lexemes)
    (w : Phrase .operand) (enclosure : Enclosure) :
    ∃ whole : Phrase .disjunction, whole.lexemes = lexemes ++ w.lexemes ∧
      Due.take ⟨enclosure, pending⟩ w.tree = whole.joined enclosure := by
  induction h generalizing w with
  | nothing => exact ⟨.alternative (.conjunct w), rfl, rfl⟩
  | or left => exact ⟨.or left (.conjunct w), by simp [Phrase.lexemes], rfl⟩
  | and h left ih =>
    cases h with
    | nothing => exact ⟨.alternative (.and left w), by simp [Phrase.lexemes], rfl⟩
    | or first => exact ⟨.or first (.and left w), by simp [Phrase.lexemes], rfl⟩
  | not h ih =>
    obtain ⟨whole, hw, ht⟩ := ih (.not w)
    exact ⟨whole, by simp [hw, Phrase.lexemes], ht⟩

theorem Due.Reads.enclosure {due : Due} {lexemes : List Lexeme} (h : due.Reads lexemes) :
    ∃ before after, lexemes = before ++ after ∧ due.pending.Reads after ∧
      ∀ inner ms, inner.Reads ms → Due.Reads ⟨due.enclosure, inner⟩ (before ++ ms) := by
  cases h with
  | outermost h => exact ⟨[], _, rfl, h, fun inner ms hi => .outermost hi⟩
  | @within enclosure outer inner before after ho hi =>
    refine ⟨before ++ [.openParen], after, by simp, hi, fun inner ms hi => ?_⟩
    simpa using Due.Reads.within ho hi

inductive Joined.Reads : Joined → List Lexeme → Prop where
  | whole {enclosure : Enclosure} {lexemes : List Lexeme}
      (h : Due.Reads ⟨enclosure, none, none, []⟩ lexemes) (w : Phrase .disjunction) :
    Reads (w.joined enclosure) (lexemes ++ w.lexemes)

theorem Due.Reads.take {due : Due} {lexemes : List Lexeme} (h : due.Reads lexemes)
    (w : Phrase .operand) : (due.take w.tree).Reads (lexemes ++ w.lexemes) := by
  obtain ⟨before, after, rfl, hp, hd⟩ := h.enclosure
  obtain ⟨whole, hw, ht⟩ := hp.take w due.enclosure
  have hj := Joined.Reads.whole (hd _ _ .nothing) whole
  rw [← ht, hw] at hj
  simpa using hj

theorem Due.Reads.negate {due : Due} {lexemes : List Lexeme} (h : due.Reads lexemes) :
    (due.negate default).Reads (lexemes ++ [.not]) := by
  obtain ⟨before, after, rfl, hp, hd⟩ := h.enclosure
  rw [List.append_assoc]
  exact hd _ _ hp.not

theorem Due.Reads.enter {due : Due} {lexemes : List Lexeme} (h : due.Reads lexemes) :
    (due.enter default).Reads (lexemes ++ [.openParen]) :=
  .within h .nothing

theorem Joined.Reads.and {joined : Joined} {lexemes : List Lexeme} (h : joined.Reads lexemes) :
    joined.and.Reads (lexemes ++ [.and]) := by
  cases h with
  | @whole enclosure lexemes h w =>
    obtain ⟨before, after, rfl, hp, hd⟩ := h.enclosure
    cases hp
    cases w with
    | alternative conjunction =>
      have ha := hd _ _ (.and .nothing conjunction)
      change Due.Reads ⟨enclosure, none, some conjunction.tree, []⟩ _
      simpa [Phrase.lexemes] using ha
    | or left right =>
      have ha := hd _ _ (.and (.or left) right)
      change Due.Reads ⟨enclosure, some left.tree, some right.tree, []⟩ _
      simpa [Phrase.lexemes] using ha

theorem Joined.Reads.or {joined : Joined} {lexemes : List Lexeme} (h : joined.Reads lexemes) :
    joined.or.Reads (lexemes ++ [.or]) := by
  cases h with
  | @whole enclosure lexemes h w =>
    obtain ⟨before, after, rfl, hp, hd⟩ := h.enclosure
    cases hp
    simpa [Phrase.joined_or] using hd _ _ (.or w)

theorem Joined.Reads.leave {joined outer : Joined} {lexemes : List Lexeme}
    (h : joined.Reads lexemes) (hl : joined.leave? default = some outer) :
    outer.Reads (lexemes ++ [.closeParen]) := by
  cases h with
  | @whole enclosure lexemes h w =>
    cases h with
    | outermost h => simp [Joined.leave?] at hl
    | within ho hi =>
      cases hi
      simp only [Joined.leave?, Phrase.joined_enclosure, Option.some.injEq] at hl
      have ht := ho.take (.group w)
      simpa [← hl, Phrase.lexemes, Phrase.tree] using ht

theorem Joined.Reads.complete {joined : Joined} {lexemes : List Lexeme} (h : joined.Reads lexemes)
    (he : joined.enclosure = []) :
    ∃ w : Phrase .disjunction, w.tree = joined.whole ∧ w.lexemes = lexemes := by
  cases h with
  | whole h w =>
    cases h with
    | outermost h =>
      cases h
      exact ⟨w, by simp, rfl⟩
    | within ho hi => simp at he

end Condition

namespace Tree
open Condition

theorem name?_eq_some {lexeme : Lexeme} {tree : Tree} (h : lexeme.token.name? = some tree) :
    ∃ name : Name, name.lexeme = lexeme ∧ name.tree = tree := by
  unfold Token.name? at h
  simp only [Lexeme.token_lexeme] at h
  split at h
  · exact ⟨.bare _, rfl, Option.some.inj h⟩
  · exact ⟨.quoted _, rfl, Option.some.inj h⟩
  · simp at h

theorem value?_eq_some {lexeme : Lexeme} {tree : Tree} (h : lexeme.token.value? = some tree) :
    ∃ literal : Literal, literal.lexeme = lexeme ∧ literal.tree = tree := by
  unfold Token.value? at h
  simp only [Lexeme.token_lexeme] at h
  split at h
  · exact ⟨.of _ _, rfl, Option.some.inj h⟩
  · exact ⟨.null, rfl, Option.some.inj h⟩
  · simp at h

theorem comparison?_eq_some {lexeme : Lexeme} {symbol : Text}
    (h : lexeme.comparison? = some symbol) :
    ∃ op, lexeme = .comparator op ∧ symbol = Text.asciiLower op.symbol.toList := by
  unfold Lexeme.comparison? at h
  split at h
  · exact ⟨_, rfl, by simpa using h.symm⟩
  · simp at h

/-- The part of a clause that has been read after its keyword. -/
inductive Stage.Reads : Clause → Stage → List Lexeme → Prop where
  | entity : Reads .source (.entity default) []
  | operand {due : Due} {lexemes : List Lexeme} (h : due.Reads lexemes) :
    Reads .filter (.operand default due) lexemes
  | comparator {due : Due} {lexemes : List Lexeme} (h : due.Reads lexemes) (field : Name) :
    Reads .filter (.comparator default due field.tree) (lexemes ++ [field.lexeme])
  | value {due : Due} {lexemes : List Lexeme} (h : due.Reads lexemes) (field : Name)
      (op : Operator) :
    Reads .filter (.value default due field.tree (Text.asciiLower op.symbol.toList))
      (lexemes ++ [field.lexeme, .comparator op])
  | joined {joined : Joined} {lexemes : List Lexeme} (h : joined.Reads lexemes) :
    Reads .filter (.joined default joined) lexemes
  | byWord : Reads .ordering (.byWord default) []
  | firstName : Reads .ordering (.name (.ordering default) []) [.byWord]
  | nextName (names : Names) :
    Reads .ordering (.name (.ordering default) names.trees) (.byWord :: names.lexemes ++ [.comma])
  | names {names : Names} {init : List Tree} {last : Name}
      (h : init ++ [last.tree] = names.trees) :
    Reads .ordering (.afterName (.ordering default) init last.tree) (.byWord :: names.lexemes)
  | limit : Reads .limit (.count .limit default) []
  | offset : Reads .offset (.count .offset default) []

theorem Stage.reads_opening (clause : Clause) : (opening default clause).Reads clause [] := by
  cases clause with
  | source => exact .entity
  | filter => exact .operand (.outermost .nothing)
  | ordering => exact .byWord
  | limit => exact .limit
  | offset => exact .offset

theorem names_concat (names : Names) (name : Name) :
    ∃ longer : Names, longer.trees = names.trees ++ [name.tree] ∧
      longer.lexemes = names.lexemes ++ [.comma, name.lexeme] :=
  ⟨⟨names.first, names.more ++ [name]⟩, by simp [Names.trees], by simp [Names.lexemes]⟩

theorem Stage.Reads.finish {clause : Clause} {stage : Stage} {lexemes : List Lexeme}
    {nodes : List Tree} (h : stage.Reads clause lexemes) (hf : stage.finish = .ok nodes) :
    ∃ part : Part, part.clause = clause ∧ nodes = [part.tree] ∧
      part.lexemes = .clause clause :: lexemes := by
  cases h with
  | joined h =>
    cases finish_eq_ok_iff.mp hf with
    | condition he =>
      obtain ⟨w, hw, rfl⟩ := h.complete he
      refine ⟨.filter w, rfl, ?_, rfl⟩
      simp [← hw, Part.tree, Part.clause, Part.children, Span.cover_default]
  | @names names init last h =>
    cases finish_eq_ok_iff.mp hf with
    | names =>
      refine ⟨.ordering ⟨names, none⟩, rfl, ?_, by simp [Part.lexemes, Ordering.lexemes]⟩
      rw [h]
      simp [NameList.nodes, Part.tree, Part.clause, Part.children, Ordering.trees,
        Span.cover_default]
  | _ => cases hf

theorem Stage.Accepts.reads_operand {due : Due} {next : Stage} {lexemes : List Lexeme}
    {nodes : List Tree} {lexeme : Lexeme}
    (ha : Accepts lexeme.token (.operand default due) nodes next) (h : due.Reads lexemes) :
    nodes = [] ∧ next.Reads .filter (lexemes ++ [lexeme]) := by
  cases ha with
  | not hl =>
    obtain rfl : lexeme = .not := hl
    exact ⟨rfl, .operand h.negate⟩
  | openParen hl =>
    obtain rfl : lexeme = .openParen := hl
    exact ⟨rfl, .operand h.enter⟩
  | field hf =>
    obtain ⟨name, rfl, rfl⟩ := name?_eq_some hf
    exact ⟨rfl, .comparator h name⟩

theorem Stage.Accepts.reads_joined {joined : Joined} {next : Stage} {lexemes : List Lexeme}
    {nodes : List Tree} {lexeme : Lexeme}
    (ha : Accepts lexeme.token (.joined default joined) nodes next) (h : joined.Reads lexemes) :
    nodes = [] ∧ next.Reads .filter (lexemes ++ [lexeme]) := by
  cases ha with
  | and hl =>
    obtain rfl : lexeme = .and := hl
    exact ⟨rfl, .operand h.and⟩
  | or hl =>
    obtain rfl : lexeme = .or := hl
    exact ⟨rfl, .operand h.or⟩
  | closeParen hl ho =>
    obtain rfl : lexeme = .closeParen := hl
    exact ⟨rfl, .joined (h.leave ho)⟩

/-- A token that belongs to a part extends it or completes it. -/
theorem Stage.Accepts.reads {clause : Clause} {stage next : Stage} {lexemes : List Lexeme}
    {nodes : List Tree} {lexeme : Lexeme} (ha : Accepts lexeme.token stage nodes next)
    (h : stage.Reads clause lexemes) :
    (nodes = [] ∧ next.Reads clause (lexemes ++ [lexeme])) ∨
      ∃ part : Part, part.clause = clause ∧ nodes = [part.tree] ∧ next = .between ∧
        part.lexemes = .clause clause :: lexemes ++ [lexeme] := by
  cases h with
  | entity =>
    cases ha with
    | entity hn =>
      obtain ⟨name, rfl, rfl⟩ := name?_eq_some hn
      exact .inr ⟨.source name, rfl, by simp [Part.tree, Part.clause, Part.children,
        Span.cover_default], rfl, rfl⟩
  | operand h => exact .inl (ha.reads_operand h)
  | comparator h field =>
    cases ha with
    | comparator hs =>
      obtain ⟨op, rfl, rfl⟩ := comparison?_eq_some hs
      exact .inl ⟨rfl, by simpa using .value h field op⟩
  | value h field op =>
    cases ha with
    | value hv =>
      obtain ⟨literal, rfl, rfl⟩ := value?_eq_some hv
      have hc := Reads.joined (h.take (.comparison ⟨field, op, literal⟩))
      rw [List.append_assoc]
      exact .inl ⟨rfl, hc⟩
  | joined h => exact .inl (ha.reads_joined h)
  | byWord =>
    cases ha with
    | byWord hl =>
      obtain rfl : lexeme = .byWord := hl
      exact .inl ⟨rfl, .firstName⟩
  | firstName =>
    cases ha with
    | name hf =>
      obtain ⟨name, rfl, rfl⟩ := name?_eq_some hf
      have hn : [] ++ [name.tree] = (Names.mk name []).trees := rfl
      exact .inl ⟨rfl, .names hn⟩
  | nextName names =>
    cases ha with
    | name hf =>
      obtain ⟨name, rfl, rfl⟩ := name?_eq_some hf
      obtain ⟨longer, hl, hx⟩ := names_concat names name
      have hr := Reads.names hl.symm
      exact .inl ⟨rfl, by simpa [hx] using hr⟩
  | @names names init last h =>
    cases ha with
    | comma hl =>
      obtain rfl : lexeme = .comma := hl
      rw [h]
      exact .inl ⟨rfl, .nextName names⟩
    | @direction _ _ _ word direction hl hw =>
      obtain rfl : lexeme = .direction direction := hl
      refine .inr ⟨.ordering ⟨names, some direction⟩, rfl, ?_, rfl, ?_⟩
      · rw [List.append_cons, h, hw]
        rfl
      · simp [Part.lexemes, Ordering.lexemes]
  | limit =>
    cases ha with
    | @integer _ _ text hl =>
      obtain rfl : lexeme = .literal .integer text := hl
      exact .inr ⟨.limit text, rfl, rfl, rfl, rfl⟩
  | offset =>
    cases ha with
    | @integer _ _ text hl =>
      obtain rfl : lexeme = .literal .integer text := hl
      exact .inr ⟨.offset text, rfl, rfl, rfl, rfl⟩

end Tree
end EntityQuery
