import EntityQuery.Emission
import EntityQuery.Sql.Dialect

/-!
Conditions of SQL statements: which comparisons of a query they can express, and how they are
written.
-/
namespace EntityQuery.Sql
open Calendar

/-- The right side of a comparison. Custom SQL is written as it is. -/
inductive Operand where
  | string (plain : Text)
  | int (n : Int)
  | num (d : Decimal)
  | bool (b : Bool)
  | date (date : Date)
  | dateTime (moment : DateTime)
  | custom (sql : Text)
  deriving DecidableEq

namespace Operand

def ofValue? : Value → Option Operand
  | .str content => some (string (Text.unescape '\'' content))
  | .int n => some (int n)
  | .num d => some (num d)
  | .bool b => some (bool b)
  | .date d => some (date d)
  | .dateTime moment => some (dateTime moment)
  | .identifier text => some (custom text)
  | .hostExpression text => some (custom text)
  | .null => none
  | .unknown _ => none

def momentText (moment : DateTime) : Text :=
  moment.date.render ++ ' ' :: moment.time.clock ++
    '.' :: Text.ofNatWide 6 (moment.time.nano / 1000) ++
    moment.offset.elim [] fun offset => ' ' :: offset.render

def render (dialect : Dialect) : Operand → Text
  | string plain => dialect.quoteString plain
  | int n => Text.ofInt n
  | num d => d.render
  | bool b => (if b then "TRUE" else "FALSE").toList
  | date d => '\'' :: d.render ++ ['\'']
  | dateTime moment => '\'' :: momentText moment ++ ['\'']
  | custom sql => '(' :: sql ++ [')']

end Operand

inductive Condition where
  | isNull (column : Text)
  | isNotNull (column : Text)
  | compare (op : Operator) (column : Text) (operand : Operand)
  | and (left right : Condition)
  | or (left right : Condition)
  | not (operand : Condition)
  deriving DecidableEq

namespace Condition

/-- The condition of a comparison. Only equality is defined with null, and only a string is a
pattern. -/
def ofComparison (op : Operator) (column : Text) (value : Value) :
    Except TranslateError Condition :=
  match op, value with
  | .eq, .null => .ok (isNull column)
  | .neq, .null => .ok (isNotNull column)
  | _, .null => .error (.operator op value.render)
  | .like, .str content => .ok (compare .like column (.string (Text.unescape '\'' content)))
  | .like, _ => .error (.operator op value.render)
  | _, _ =>
    match Operand.ofValue? value with
    | some operand => .ok (compare op column operand)
    | none => .error (.value value.render)

def isComparison : Condition → Bool
  | isNull _ => true
  | isNotNull _ => true
  | compare _ _ _ => true
  | _ => false

def isAnd : Condition → Bool
  | and _ _ => true
  | _ => false

def isOr : Condition → Bool
  | or _ _ => true
  | _ => false

def bracketed (bare : Bool) (text : Text) : Text :=
  if bare then text else '(' :: text ++ [')']

/-- A left operand with the same connective needs no brackets. -/
def render (dialect : Dialect) : Condition → Text
  | isNull column => dialect.quoteName column ++ " IS NULL".toList
  | isNotNull column => dialect.quoteName column ++ " IS NOT NULL".toList
  | compare op column operand =>
    dialect.quoteName column ++ ' ' :: op.symbol.toList ++ ' ' :: operand.render dialect
  | and left right =>
    bracketed (left.isComparison || left.isAnd) (left.render dialect) ++ " AND ".toList ++
      bracketed right.isComparison (right.render dialect)
  | or left right =>
    bracketed (left.isComparison || left.isOr) (left.render dialect) ++ " OR ".toList ++
      bracketed right.isComparison (right.render dialect)
  | not operand =>
    "NOT ".toList ++ bracketed operand.isComparison (operand.render dialect)

end Condition
end EntityQuery.Sql
