import EntityQuery.Sql.Condition

/-!
SQL statements that select rows.
-/
namespace EntityQuery.Sql

inductive Column where
  | all
  | named (name : Text)
  deriving DecidableEq

def Column.ofField (field : Field) : Column :=
  if field.isWildcard then all else named field.name

def Column.render (dialect : Dialect) : Column → Text
  | all => ['*']
  | named name => dialect.quoteName name

structure Statement where
  columns : List Column
  tables : List Text
  filter : Option Condition
  order : List (Text × Direction)
  limit : Option Nat
  offset : Option Nat
  deriving DecidableEq

namespace Statement

def empty : Statement :=
  ⟨[], [], none, [], none, none⟩

/-- A part of a statement after its keyword, absent if nothing is in it. -/
def listed (keyword : String) (items : List Text) : Text :=
  if items.isEmpty then [] else keyword.toList ++ List.intercalate ", ".toList items

def paging (statement : Statement) : Text :=
  (statement.limit.elim [] fun n => " LIMIT ".toList ++ Text.ofNat n) ++
    (statement.offset.elim [] fun n => " OFFSET ".toList ++ Text.ofNat n)

def render (dialect : Dialect) (statement : Statement) : Text :=
  "SELECT ".toList ++
    List.intercalate ", ".toList (statement.columns.map (Column.render dialect)) ++
    listed " FROM " (statement.tables.map dialect.quoteName) ++
    (statement.filter.elim [] fun filter => " WHERE ".toList ++ filter.render dialect) ++
    listed " ORDER BY " (statement.order.map fun (column, direction) =>
      dialect.quoteName column ++ ' ' :: direction.keyword.toList) ++
    statement.paging

end Statement
end EntityQuery.Sql
