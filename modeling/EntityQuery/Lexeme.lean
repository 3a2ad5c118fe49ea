import EntityQuery.Clause
import EntityQuery.Direction
import EntityQuery.Operator
import EntityQuery.Span

/-!
The smallest units of a query text. A literal or an illegal lexeme carries the text it was read
from, with its quotes and brackets; the text of any other is one of a few fixed spellings.
-/
namespace EntityQuery

inductive LiteralKind where
  | identifier
  | string
  | integer
  | decimal
  | boolean
  | date
  | dateTime
  | hostExpression
  deriving DecidableEq

def LiteralKind.name : LiteralKind → String
  | identifier => "Identifier"
  | string => "String"
  | integer => "Integer"
  | decimal => "Decimal"
  | boolean => "Boolean"
  | date => "Date"
  | dateTime => "DateTime"
  | hostExpression => "HostExpression"

inductive Lexeme where
  | select
  | clause (clause : Clause)
  | byWord
  | and
  | or
  | not
  | direction (direction : Direction)
  | comparator (op : Operator)
  | null
  | star
  | comma
  | openParen
  | closeParen
  | literal (kind : LiteralKind) (text : Text)
  | illegal (text : Text)
  deriving DecidableEq

namespace Lexeme

def name : Lexeme → String
  | select => "Select"
  | clause .source => "From"
  | clause .filter => "Where"
  | clause .ordering => "Order"
  | clause .limit => "Limit"
  | clause .offset => "Offset"
  | byWord => "By"
  | and => "And"
  | or => "Or"
  | not => "Not"
  | direction .asc => "Asc"
  | direction .desc => "Desc"
  | comparator .eq => "Eq"
  | comparator .neq => "NotEq"
  | comparator .gt => "Gt"
  | comparator .lt => "Lt"
  | comparator .gte => "Gte"
  | comparator .lte => "Lte"
  | comparator .like => "Like"
  | null => "Null"
  | star => "Star"
  | comma => "Comma"
  | openParen => "LParen"
  | closeParen => "RParen"
  | literal kind _ => kind.name
  | illegal _ => "Illegal"

def text? : Lexeme → Option Text
  | literal _ text => some text
  | illegal text => some text
  | _ => none

def shown (lexeme : Lexeme) : Text :=
  match lexeme.text? with
  | some text => lexeme.name.toList ++ '(' :: text.shown ++ [')']
  | none => lexeme.name.toList

def isClause : Lexeme → Bool
  | clause _ => true
  | _ => false

def comparison? : Lexeme → Option Text
  | comparator op => some (Text.asciiLower op.symbol.toList)
  | _ => none

end Lexeme

structure Token where
  lexeme : Lexeme
  span : Span
  deriving DecidableEq

end EntityQuery
