import EntityQuery.Text.Shown

/-!
Comparison operators and the symbols they are known by.
-/
namespace EntityQuery

inductive Operator where
  | eq
  | gt
  | lt
  | gte
  | lte
  | neq
  | like
  deriving DecidableEq

namespace Operator

def symbol : Operator → String
  | eq => "="
  | gt => ">"
  | lt => "<"
  | gte => ">="
  | lte => "<="
  | neq => "<>"
  | like => "LIKE"

def all : List Operator :=
  [eq, gt, lt, gte, lte, neq, like]

def ofSymbol? (text : Text) : Option Operator :=
  all.find? fun op => Text.sameWord op.symbol.toList text.trim

def unknownMessage (text : Text) : Text :=
  "unmapped comparison operator ".toList ++ text.shown

end Operator
end EntityQuery
