/-!
The clauses that may follow a projection. Each stands at most once, in the order of their ranks.
-/
namespace EntityQuery

inductive Clause where
  | source
  | filter
  | ordering
  | limit
  | offset
  deriving DecidableEq

namespace Clause

def rank : Clause → Nat
  | source => 1
  | filter => 2
  | ordering => 3
  | limit => 4
  | offset => 5

def keywords : Clause → String
  | source => "FROM"
  | filter => "WHERE"
  | ordering => "ORDER BY"
  | limit => "LIMIT"
  | offset => "OFFSET"

end Clause
end EntityQuery
