import EntityQuery.Value

/-! The language of queries as a grammar over lexemes. A phrase of the grammar is its derivation;
`lexemes` gives the sequence that it derives.

    sentence    = SELECT projection [FROM name] [WHERE disjunction]
                  [ORDER BY name (, name)* [ASC | DESC]] [LIMIT integer] [OFFSET integer]
    projection  = * | name (, name)*
    disjunction = conjunction (OR conjunction)*
    conjunction = operand (AND operand)*
    operand     = NOT operand | ( disjunction ) | name comparator literal -/
namespace EntityQuery.Grammar

inductive Name where
  | bare (text : Text)
  | quoted (text : Text)

inductive Literal where
  | of (kind : LiteralKind) (text : Text)
  | null

structure Comparison where
  field : Name
  op : Operator
  value : Literal

inductive Binding where
  | operand
  | conjunction
  | disjunction

/-- A condition, or a part of one that binds as tightly as the index says. -/
inductive Phrase : Binding → Type where
  | comparison (comparison : Comparison) : Phrase .operand
  | group (inner : Phrase .disjunction) : Phrase .operand
  | not (operand : Phrase .operand) : Phrase .operand
  | conjunct (operand : Phrase .operand) : Phrase .conjunction
  | and (left : Phrase .conjunction) (right : Phrase .operand) : Phrase .conjunction
  | alternative (conjunction : Phrase .conjunction) : Phrase .disjunction
  | or (left : Phrase .disjunction) (right : Phrase .conjunction) : Phrase .disjunction

structure Names where
  first : Name
  more : List Name

inductive Projection where
  | all
  | names (list : Names)

structure Ordering where
  names : Names
  direction : Option Direction

structure Sentence where
  projection : Projection
  source : Option Name
  filter : Option (Phrase .disjunction)
  ordering : Option Ordering
  limit : Option Text
  offset : Option Text

inductive Part where
  | source (entity : Name)
  | filter (condition : Phrase .disjunction)
  | ordering (list : Ordering)
  | limit (count : Text)
  | offset (count : Text)

def Part.clause : Part → Clause
  | source _ => .source
  | filter _ => .filter
  | ordering _ => .ordering
  | limit _ => .limit
  | offset _ => .offset

def Sentence.parts (s : Sentence) : List Part :=
  (s.source.map .source).toList ++ (s.filter.map .filter).toList ++
    (s.ordering.map .ordering).toList ++ (s.limit.map .limit).toList ++
    (s.offset.map .offset).toList

def Name.lexeme : Name → Lexeme
  | bare text => .literal .identifier text
  | quoted text => .literal .string text

def Literal.lexeme : Literal → Lexeme
  | of kind text => .literal kind text
  | null => .null

def Comparison.lexemes (c : Comparison) : List Lexeme :=
  [c.field.lexeme, .comparator c.op, c.value.lexeme]

def Phrase.lexemes {b : Binding} : Phrase b → List Lexeme
  | comparison c => c.lexemes
  | group inner => .openParen :: inner.lexemes ++ [.closeParen]
  | not operand => .not :: operand.lexemes
  | conjunct operand => operand.lexemes
  | and left right => left.lexemes ++ .and :: right.lexemes
  | alternative conjunction => conjunction.lexemes
  | or left right => left.lexemes ++ .or :: right.lexemes

def Names.lexemes (names : Names) : List Lexeme :=
  names.first.lexeme :: names.more.flatMap fun name => [.comma, name.lexeme]

def Projection.lexemes : Projection → List Lexeme
  | all => [.star]
  | names list => list.lexemes

def Ordering.lexemes (ordering : Ordering) : List Lexeme :=
  ordering.names.lexemes ++ (ordering.direction.map .direction).toList

def Part.lexemes : Part → List Lexeme
  | source entity => [.clause .source, entity.lexeme]
  | filter condition => .clause .filter :: condition.lexemes
  | ordering list => .clause .ordering :: .byWord :: list.lexemes
  | limit count => [.clause .limit, .literal .integer count]
  | offset count => [.clause .offset, .literal .integer count]

def Sentence.lexemes (s : Sentence) : List Lexeme :=
  .select :: s.projection.lexemes ++ s.parts.flatMap Part.lexemes

end EntityQuery.Grammar
