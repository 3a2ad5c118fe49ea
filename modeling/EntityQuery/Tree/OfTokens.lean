import EntityQuery.Lexeme.OfText
import EntityQuery.Tree.Condition
import EntityQuery.Tree.Fault

/-!
The tree of a sequence of tokens, read from left to right with a bounded memory for each open
bracket. Reading never fails: a part that cannot be read becomes an error marker, and goes on
at the next clause.
-/
namespace EntityQuery

namespace Token

def name? (token : Token) : Option Tree :=
  match token.lexeme with
  | .literal .identifier text => some (.leaf (.literal .identifier) text token.span)
  | .literal .string text => some (.leaf (.literal .string) text token.span)
  | _ => none

def value? (token : Token) : Option Tree :=
  match token.lexeme with
  | .literal kind text => some (.leaf (.literal kind) text token.span)
  | .null => some (.leaf .null "NULL".toList token.span)
  | _ => none

end Token

namespace Tree

def clause (clause : Clause) (span : Span) (children : List Tree) : Tree :=
  ⟨.clause clause, clause.keywords.toList, span, children⟩

def marker (fault : Fault) (span : Span) : Tree :=
  .leaf .errorMarker fault.message span

/-- Where a list of names stands: in the projection, or in the ordering that a keyword opens. -/
inductive NameList where
  | projection
  | ordering (keyword : Span)

def NameList.nodes (names : List Tree) (last : Tree) : NameList → List Tree
  | projection => names
  | ordering keyword => [clause .ordering (keyword.cover last.place) names]

inductive Stage where
  | start
  | projection
  | name (list : NameList) (before : List Tree)
  | afterName (list : NameList) (before : List Tree) (last : Tree)
  | entity (keyword : Span)
  | operand (keyword : Span) (due : Condition.Due)
  | comparator (keyword : Span) (due : Condition.Due) (field : Tree)
  | value (keyword : Span) (due : Condition.Due) (field : Tree) (symbol : Text)
  | joined (keyword : Span) (joined : Condition.Joined)
  | byWord (keyword : Span)
  | count (clause : Clause) (keyword : Span)
  | between
  | skipping

namespace Stage

def opening (keyword : Span) : Clause → Stage
  | .source => entity keyword
  | .filter => operand keyword .start
  | .ordering => byWord keyword
  | .limit => count .limit keyword
  | .offset => count .offset keyword

/-- How the part goes on with a token, and the nodes that are complete with it; none if the token
does not belong to the part. -/
def accept (token : Token) : Stage → Option (List Tree × Stage)
  | start => if token.lexeme = .select then some ([], projection) else none
  | projection =>
    if token.lexeme = .star then some ([.leaf .wildcard ['*'] token.span], between)
    else token.name?.map fun field => ([], afterName .projection [] field)
  | name list before => token.name?.map fun field => ([], afterName list before field)
  | afterName list before last =>
    match list, token.lexeme with
    | _, .comma => some ([], name list (before ++ [last]))
    | .ordering _, .direction direction =>
      let word := .leaf .direction direction.keyword.toList token.span
      some (list.nodes (before ++ [last, word]) word, between)
    | _, _ => none
  | entity keyword =>
    token.name?.map fun entity =>
      ([clause .source (keyword.cover entity.place) [entity]], between)
  | operand keyword due =>
    match token.lexeme with
    | .not => some ([], operand keyword (due.negate token.span))
    | .openParen => some ([], operand keyword (due.enter token.span))
    | _ => token.name?.map fun field => ([], comparator keyword due field)
  | comparator keyword due field =>
    token.lexeme.comparison?.map fun symbol => ([], value keyword due field symbol)
  | value keyword due field symbol =>
    token.value?.map fun literal =>
      ([], joined keyword (due.take (comparison symbol field literal)))
  | joined keyword condition =>
    match token.lexeme with
    | .and => some ([], operand keyword condition.and)
    | .or => some ([], operand keyword condition.or)
    | .closeParen => (condition.leave? token.span).map fun outer => ([], joined keyword outer)
    | _ => none
  | byWord keyword =>
    if token.lexeme = .byWord then some ([], name (.ordering keyword) []) else none
  | count paging keyword =>
    match token.lexeme with
    | .literal .integer text =>
      some ([clause paging (keyword.cover token.span)
        [.leaf (.literal .integer) text token.span]], between)
    | _ => none
  | between => none
  | skipping => if token.lexeme.isClause then none else some ([], skipping)

def finish : Stage → Except Expectation (List Tree)
  | start => .error .select
  | projection => .error .name
  | name _ _ => .error .name
  | afterName list before last => .ok (list.nodes (before ++ [last]) last)
  | entity _ => .error .name
  | operand _ _ => .error .name
  | comparator _ _ _ => .error .comparator
  | value _ _ _ _ => .error .literal
  | joined keyword condition =>
    if condition.enclosure.isEmpty then
      .ok [clause .filter (keyword.cover condition.whole.place) [condition.whole]]
    else .error .closeParen
  | byWord _ => .error .byWord
  | count paging _ => .error (.count paging)
  | between => .ok []
  | skipping => .ok []

end Stage

/-- What has been read of a query: the complete nodes, the rank of the last clause, and the part
that is being read. -/
structure Reading where
  children : List Tree
  rank : Nat
  stage : Stage

namespace Reading

def start : Reading :=
  ⟨[], 0, .start⟩

def add (reading : Reading) (nodes : List Tree) (stage : Stage) : Reading :=
  { reading with children := reading.children ++ nodes, stage }

/-- An error marker, after which all is skipped up to the next clause. -/
def fail (reading : Reading) (fault : Fault) (span : Span) : Reading :=
  reading.add [marker fault span] .skipping

def resume (reading : Reading) (token : Token) : Reading :=
  match token.lexeme with
  | .clause clause =>
    if clause.rank ≤ reading.rank then reading.fail (.misplaced clause) token.span
    else { reading with rank := clause.rank, stage := .opening token.span clause }
  | found => reading.fail (.stray found) token.span

/-- A token belongs to the open part, or it comes after the part, or it is a fault. -/
def step (reading : Reading) (token : Token) : Reading :=
  match reading.stage.accept token with
  | some (nodes, stage) => reading.add nodes stage
  | none =>
    match reading.stage.finish with
    | .ok nodes => (reading.add nodes .between).resume token
    | .error what =>
      let failed := reading.fail (.unmet what token.lexeme) token.span
      if token.lexeme.isClause then failed.resume token else failed

def finish (reading : Reading) (stop : Nat) : List Tree :=
  match reading.stage.finish with
  | .ok nodes => reading.children ++ nodes
  | .error what => reading.children ++ [marker (.ended what) (.point stop)]

end Reading

def ofTokens (tokens : List Token) : Tree :=
  let first := (tokens.head?.map Token.span).getD default
  let last := (tokens.getLast?.map Token.span).getD default
  ⟨.select, "SELECT".toList, first.cover last,
    (tokens.foldl Reading.step .start).finish last.stop⟩

def ofText (text : Text) : Tree :=
  ofTokens (Token.ofText text)

end Tree
end EntityQuery
