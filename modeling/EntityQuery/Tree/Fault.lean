import EntityQuery.Lexeme

/-!
What can be wrong with a sequence of tokens, and how an error marker says it.
-/
namespace EntityQuery

inductive Expectation where
  | select
  | byWord
  | closeParen
  | name
  | comparator
  | literal
  | count (clause : Clause)
  deriving DecidableEq

def Expectation.phrase : Expectation → String
  | select => Lexeme.select.name
  | byWord => Lexeme.byWord.name
  | closeParen => Lexeme.closeParen.name
  | name => "field or entity name"
  | comparator => "comparison operator"
  | literal => "literal value"
  | count _ => "integer"

/-- The words for what is missing where something else stands. -/
def Expectation.phraseBefore : Expectation → String
  | count clause => "integer after " ++ clause.keywords
  | what => what.phrase

inductive Fault where
  | unmet (what : Expectation) (found : Lexeme)
  | ended (what : Expectation)
  | stray (found : Lexeme)
  | misplaced (clause : Clause)
  deriving DecidableEq

def Fault.message : Fault → Text
  | unmet what found =>
    "Expected ".toList ++ what.phraseBefore.toList ++ ", found ".toList ++ found.shown
  | ended what => "Expected ".toList ++ what.phrase.toList ++ ", but reached end of input".toList
  | stray found => "Unexpected token: ".toList ++ found.shown
  | misplaced clause =>
    "Unexpected ".toList ++ (Lexeme.clause clause).shown ++ " clause".toList

end EntityQuery
