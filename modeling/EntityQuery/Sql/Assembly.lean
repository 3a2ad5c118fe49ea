import EntityQuery.Sql.Statement
import EntityQuery.Text.Lowercase

/-!
Assembling a SQL statement from the events of a query. The filter is rebuilt from its groups,
each of which folds in its operands as they come.
-/
namespace EntityQuery.Sql

inductive Connective where
  | and
  | or
  deriving DecidableEq

/-- An open group: what it holds so far, the connective before its next operand, and how often it
is to be negated. -/
structure Group where
  condition : Option Condition
  connective : Option Connective
  negations : Nat
  deriving DecidableEq

/-- A statement that is being assembled, for a dialect and with the tables of some entities. The
innermost open group comes first; `negations` wait for the next operand or group. -/
structure Assembly where
  dialect : Dialect
  tables : List (Text × Text)
  statement : Statement
  groups : List Group
  negations : Nat
  deriving DecidableEq

namespace Group

def empty : Group :=
  ⟨none, none, 0⟩

/-- The group with one more operand. Without a connective operands are joined by `AND`. -/
def add (group : Group) (operand : Condition) : Group :=
  let condition :=
    match group.condition, group.connective with
    | some left, some .or => left.or operand
    | some left, _ => left.and operand
    | none, _ => operand
  { group with condition := some condition, connective := none }

end Group

namespace Assembly

def start (dialect : Dialect) (tables : List (Text × Text)) : Assembly :=
  ⟨dialect, tables, .empty, [], 0⟩

def setDialect (assembly : Assembly) (dialect : Dialect) : Assembly :=
  { assembly with dialect }

/-- Entities that have been named so far keep their tables. -/
def setTables (assembly : Assembly) (tables : List (Text × Text)) : Assembly :=
  { assembly with tables }

def table (assembly : Assembly) (entity : Text) : Text :=
  (assembly.tables.lookup entity).getD (Text.lowercase entity)

def negate (n : Nat) (condition : Condition) : Condition :=
  Nat.repeat .not n condition

/-- An operand for the innermost group; one is opened if there is none. -/
def push (assembly : Assembly) (operand : Condition) : Assembly :=
  let negated := negate assembly.negations operand
  match assembly.groups with
  | [] => { assembly with groups := [Group.empty.add negated], negations := 0 }
  | group :: outer => { assembly with groups := group.add negated :: outer, negations := 0 }

def connect (assembly : Assembly) (connective : Connective) : Assembly :=
  match assembly.groups with
  | [] => assembly
  | group :: outer =>
    { assembly with groups := { group with connective := some connective } :: outer }

def beginFilter (assembly : Assembly) : Assembly :=
  { assembly with groups := [.empty], negations := 0 }

def beginGroup (assembly : Assembly) : Assembly :=
  { assembly with
    groups := { Group.empty with negations := assembly.negations } :: assembly.groups
    negations := 0 }

/-- The innermost group becomes an operand of the next; an empty group leaves no trace. -/
def endGroup (assembly : Assembly) : Assembly :=
  match assembly.groups with
  | [] => assembly
  | group :: outer =>
    let rest := { assembly with groups := outer }
    match group.condition with
    | none => rest
    | some condition => rest.push (negate group.negations condition)

def endGroups (assembly : Assembly) : Assembly :=
  Nat.repeat endGroup (assembly.groups.length - 1) assembly

def complete (assembly : Assembly) : Statement :=
  { assembly.statement with
    filter := assembly.endGroups.groups.head?.bind Group.condition }

def edit (assembly : Assembly) (f : Statement → Statement) : Assembly :=
  { assembly with statement := f assembly.statement }

def call (event : Event) (assembly : Assembly) : Except TranslateError Unit × Assembly :=
  match event with
  | .fields fields =>
    (.ok (), assembly.edit fun s => { s with columns := s.columns ++ fields.map .ofField })
  | .source entity =>
    (.ok (), assembly.edit fun s => { s with tables := s.tables ++ [assembly.table entity] })
  | .filter => (.ok (), assembly.beginFilter)
  | .comparison op field value =>
    match Condition.ofComparison op field.name value with
    | .ok condition => (.ok (), assembly.push condition)
    | .error e => (.error e, assembly)
  | .beginGroup => (.ok (), assembly.beginGroup)
  | .endGroup => (.ok (), assembly.endGroup)
  | .and => (.ok (), assembly.connect .and)
  | .or => (.ok (), assembly.connect .or)
  | .not => (.ok (), { assembly with negations := assembly.negations + 1 })
  | .order fields direction =>
    let order := fields.map fun field => (field.name, direction.getD .asc)
    (.ok (), assembly.edit fun s => { s with order := s.order ++ order })
  | .limit n => (.ok (), assembly.edit fun s => { s with limit := n })
  | .offset n => (.ok (), assembly.edit fun s => { s with offset := n })

/-- The text of the statement. The groups are closed and the outermost one is taken out, and the
next statement begins with nothing in it and no negation waiting. -/
def result (assembly : Assembly) : Text × Assembly :=
  let closed := assembly.endGroups
  (assembly.complete.render assembly.dialect,
    { closed with statement := .empty, groups := closed.groups.tail, negations := 0 })

end Assembly

def translator : Translator Assembly :=
  ⟨Assembly.call, Assembly.result⟩

end EntityQuery.Sql

namespace EntityQuery

def Query.sql (dialect : Dialect) (tables : List (Text × Text)) (query : Query) :
    Except TranslateError Text :=
  (Sql.translator.translate query (.start dialect tables)).1

end EntityQuery
