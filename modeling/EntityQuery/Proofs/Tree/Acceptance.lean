import EntityQuery.Tree.OfTokens

/-! How a part of a query goes on, and how it ends. There is one rule for each kind of token that a
part goes on with, and one for each kind of part that may end; what is proved of all parts at once
is proved rule by rule. -/
namespace EntityQuery.Tree.Stage
open Condition

variable {token : Token} {stage next : Stage} {nodes : List Tree}

/-- The part goes on with the token, and the nodes are complete with it. -/
inductive Accepts (token : Token) : Stage → List Tree → Stage → Prop where
  | select (h : token.lexeme = .select) : Accepts token .start [] .projection
  | star (h : token.lexeme = .star) :
    Accepts token .projection [.leaf .wildcard ['*'] token.span] .between
  | firstName {field : Tree} (h : token.name? = some field) :
    Accepts token .projection [] (.afterName .projection [] field)
  | name {list : NameList} {before : List Tree} {field : Tree} (h : token.name? = some field) :
    Accepts token (.name list before) [] (.afterName list before field)
  | comma {list : NameList} {before : List Tree} {last : Tree} (h : token.lexeme = .comma) :
    Accepts token (.afterName list before last) [] (.name list (before ++ [last]))
  | direction {keyword : Span} {before : List Tree} {last word : Tree} {direction : Direction}
      (h : token.lexeme = .direction direction)
      (hw : word = .leaf .direction direction.keyword.toList token.span) :
    Accepts token (.afterName (.ordering keyword) before last)
      ((NameList.ordering keyword).nodes (before ++ [last, word]) word) .between
  | entity {keyword : Span} {entity : Tree} (h : token.name? = some entity) :
    Accepts token (.entity keyword) [clause .source (keyword.cover entity.place) [entity]] .between
  | not {keyword : Span} {due : Due} (h : token.lexeme = .not) :
    Accepts token (.operand keyword due) [] (.operand keyword (due.negate token.span))
  | openParen {keyword : Span} {due : Due} (h : token.lexeme = .openParen) :
    Accepts token (.operand keyword due) [] (.operand keyword (due.enter token.span))
  | field {keyword : Span} {due : Due} {field : Tree} (h : token.name? = some field) :
    Accepts token (.operand keyword due) [] (.comparator keyword due field)
  | comparator {keyword : Span} {due : Due} {field : Tree} {symbol : Text}
      (h : token.lexeme.comparison? = some symbol) :
    Accepts token (.comparator keyword due field) [] (.value keyword due field symbol)
  | value {keyword : Span} {due : Due} {field literal : Tree} {symbol : Text}
      (h : token.value? = some literal) :
    Accepts token (.value keyword due field symbol) []
      (.joined keyword (due.take (comparison symbol field literal)))
  | and {keyword : Span} {condition : Joined} (h : token.lexeme = .and) :
    Accepts token (.joined keyword condition) [] (.operand keyword condition.and)
  | or {keyword : Span} {condition : Joined} (h : token.lexeme = .or) :
    Accepts token (.joined keyword condition) [] (.operand keyword condition.or)
  | closeParen {keyword : Span} {condition outer : Joined} (h : token.lexeme = .closeParen)
      (ho : condition.leave? token.span = some outer) :
    Accepts token (.joined keyword condition) [] (.joined keyword outer)
  | byWord {keyword : Span} (h : token.lexeme = .byWord) :
    Accepts token (.byWord keyword) [] (.name (.ordering keyword) [])
  | integer {paging : Clause} {keyword : Span} {text : Text}
      (h : token.lexeme = .literal .integer text) :
    Accepts token (.count paging keyword)
      [clause paging (keyword.cover token.span) [.leaf (.literal .integer) text token.span]]
      .between
  | skip (h : token.lexeme.isClause = false) : Accepts token .skipping [] .skipping

theorem accepts_of_accept (h : stage.accept token = some (nodes, next)) :
    Accepts token stage nodes next := by
  cases stage with
  | start =>
    obtain ⟨hl, he⟩ := Option.ite_none_right_eq_some.mp h
    cases he
    exact .select hl
  | projection =>
    simp only [accept] at h
    split at h
    · cases h
      exact .star ‹_›
    · obtain ⟨field, hf, he⟩ := Option.map_eq_some_iff.mp h
      cases he
      exact .firstName hf
  | name list before =>
    obtain ⟨field, hf, he⟩ := Option.map_eq_some_iff.mp h
    cases he
    exact .name hf
  | afterName list before last =>
    simp only [accept] at h
    split at h
    · cases h
      exact .comma ‹_›
    · cases h
      exact .direction ‹_› rfl
    · cases h
  | entity keyword =>
    obtain ⟨entity, he, hn⟩ := Option.map_eq_some_iff.mp h
    cases hn
    exact .entity he
  | operand keyword due =>
    simp only [accept] at h
    split at h
    · cases h
      exact .not ‹_›
    · cases h
      exact .openParen ‹_›
    · obtain ⟨field, hf, he⟩ := Option.map_eq_some_iff.mp h
      cases he
      exact .field hf
  | comparator keyword due field =>
    obtain ⟨symbol, hs, he⟩ := Option.map_eq_some_iff.mp h
    cases he
    exact .comparator hs
  | value keyword due field symbol =>
    obtain ⟨literal, hl, he⟩ := Option.map_eq_some_iff.mp h
    cases he
    exact .value hl
  | joined keyword condition =>
    simp only [accept] at h
    split at h
    · cases h
      exact .and ‹_›
    · cases h
      exact .or ‹_›
    · obtain ⟨outer, ho, he⟩ := Option.map_eq_some_iff.mp h
      cases he
      exact .closeParen ‹_› ho
    · cases h
  | byWord keyword =>
    obtain ⟨hl, he⟩ := Option.ite_none_right_eq_some.mp h
    cases he
    exact .byWord hl
  | count paging keyword =>
    simp only [accept] at h
    split at h
    · cases h
      exact .integer ‹_›
    · cases h
  | between => cases h
  | skipping =>
    obtain ⟨hc, he⟩ := Option.ite_none_left_eq_some.mp h
    cases he
    exact .skip (Bool.eq_false_iff.mpr hc)

theorem exists_literal_of_name? {field : Tree} (h : token.name? = some field) :
    ∃ kind text, token.lexeme = .literal kind text := by
  unfold Token.name? at h
  split at h
  · exact ⟨_, _, ‹_›⟩
  · exact ⟨_, _, ‹_›⟩
  · cases h

theorem accept_eq_some_iff :
    stage.accept token = some (nodes, next) ↔ Accepts token stage nodes next := by
  constructor
  · exact accepts_of_accept
  · intro h
    cases h with
    | firstName h | field h =>
      obtain ⟨kind, text, hl⟩ := exists_literal_of_name? h
      simp [accept, hl, h]
    | direction h hw => simp [accept, h, hw]
    | closeParen h ho => simp [accept, h, ho]
    | _ h => simp [accept, h]

/-- The part may end, and the nodes are complete when it does. -/
inductive Finishes : Stage → List Tree → Prop where
  | names {list : NameList} {before : List Tree} {last : Tree} :
    Finishes (.afterName list before last) (list.nodes (before ++ [last]) last)
  | condition {keyword : Span} {condition : Joined} (h : condition.enclosure = []) :
    Finishes (.joined keyword condition)
      [clause .filter (keyword.cover condition.whole.place) [condition.whole]]
  | between : Finishes .between []
  | skipping : Finishes .skipping []

theorem finish_eq_ok_iff : stage.finish = .ok nodes ↔ Finishes stage nodes := by
  constructor
  · intro h
    cases stage with
    | afterName list before last =>
      cases h
      exact .names
    | joined keyword condition =>
      simp only [finish] at h
      split at h
      · cases h
        exact .condition (List.isEmpty_iff.mp ‹_›)
      · cases h
    | between =>
      cases h
      exact .between
    | skipping =>
      cases h
      exact .skipping
    | _ => cases h
  · intro h
    cases h with
    | condition h => simp [finish, h]
    | _ => rfl

end EntityQuery.Tree.Stage
