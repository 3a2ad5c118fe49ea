import EntityQuery.Calendar.DateTime
import EntityQuery.Decimal
import EntityQuery.Text.Quoted
import EntityQuery.Tree

/-!
Values that fields are compared with.
-/
namespace EntityQuery
open Calendar

/-- A string is kept as content between single quotes. What no other kind of value can hold is an
unknown value, kept as written. -/
inductive Value where
  | str (content : Text)
  | int (n : Int)
  | num (d : Decimal)
  | bool (b : Bool)
  | date (date : Date)
  | dateTime (moment : DateTime)
  | identifier (text : Text)
  | hostExpression (text : Text)
  | null
  | unknown (text : Text)
  deriving DecidableEq

namespace Value

def ofNode (kind : NodeKind) (text : Text) : Value :=
  match kind with
  | .literal .string => str (Text.singleQuoted text)
  | .literal .integer => (Text.integer? text).elim (unknown text) int
  | .literal .decimal => (Decimal.ofText? text).elim (unknown text) num
  | .literal .boolean => bool (Text.sameWord text.trim "true".toList)
  | .literal .date => (Date.ofText? text).elim (unknown text) date
  | .literal .dateTime => (DateTime.ofText? text).elim (unknown text) dateTime
  | .literal .identifier => identifier text
  | .literal .hostExpression => hostExpression text
  | .null => null
  | _ => unknown text

def ofPlain (text : Text) : Value :=
  str (Text.escape text)

def render : Value → Text
  | str content => '\'' :: content ++ ['\'']
  | int n => Text.ofInt n
  | num d => d.render
  | bool b => (if b then "true" else "false").toList
  | date d => d.render
  | dateTime moment => moment.render
  | identifier text => text
  | hostExpression text => text
  | null => "NULL".toList
  | unknown text => text

end Value
end EntityQuery
