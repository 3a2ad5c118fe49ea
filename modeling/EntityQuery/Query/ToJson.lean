import EntityQuery.Json
import EntityQuery.Query

/-!
Queries as JSON values.
-/
namespace EntityQuery

def Operator.tag : Operator → String
  | eq => "Eq"
  | gt => "Gt"
  | lt => "Lt"
  | gte => "Gte"
  | lte => "Lte"
  | neq => "Neq"
  | like => "Like"

def Direction.tag : Direction → String
  | asc => "Asc"
  | desc => "Desc"

def Value.toJson (value : Value) : Json :=
  let typed (type : String) (content : Json) : Json :=
    .object [("type", .text type.toList), ("value", content)]
  match value with
  | str content => typed "Str" (.text content)
  | int n => typed "Int" (.num (Text.ofInt n))
  | num d => typed "Num" (.text d.render)
  | bool b => typed "Bool" (.bool b)
  | date d => typed "Date" (.text d.render)
  | dateTime moment => typed "DateTime" (.text moment.render)
  | identifier text => typed "Identifier" (.text text)
  | hostExpression text => typed "HostExpression" (.text text)
  | null => .object [("type", .text "Null".toList)]
  | unknown text => typed "Unknown" (.text text)

def Field.toJson (field : Field) : Json :=
  .object [("name", .text field.name), ("type", .text field.type)]

def Expression.toJson : Expression → Json
  | comparison op field value =>
    .tagged "Comparison" (.object [("operator", .text op.tag.toList), ("field", field.toJson),
      ("value", value.toJson)])
  | and left right => .tagged "And" (.arr [left.toJson, right.toJson])
  | or left right => .tagged "Or" (.arr [left.toJson, right.toJson])
  | not operand => .tagged "Not" operand.toJson

def Query.toJson (query : Query) : Json :=
  .object [
    ("fields", .arr (query.fields.map Field.toJson)),
    ("source", .object [("name", .text query.source)]),
    ("filter", query.filter.elim .null Expression.toJson),
    ("order_by", .arr (query.order.map Field.toJson)),
    ("direction", query.direction.elim .null fun direction => .text direction.tag.toList),
    ("limit", query.limit.elim .null Json.ofNat),
    ("offset", query.offset.elim .null Json.ofNat)]

end EntityQuery
