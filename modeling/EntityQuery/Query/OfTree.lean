import EntityQuery.Query.Fault
import EntityQuery.Tree.OfTokens

/-!
The query that a tree says. Brackets leave no trace, and a connective with more than two operands
groups to the left.
-/
namespace EntityQuery
variable {ρ : Type}

namespace Node

def misplaced (node : Node ρ) (position : Position) : CompileError ρ :=
  .malformed (.unexpected node.kind node.text position)

/-- The error of a node where an error marker may stand. -/
def fault (node : Node ρ) (position : Position) : CompileError ρ :=
  if node.kind = .errorMarker then .unreadable node.text node.place else node.misplaced position

def field (node : Node ρ) : Field :=
  .named (Text.nameOf node.text)

end Node

namespace Expression

def comparisonOf (text : Text) (children : List (Node ρ)) : Except (CompileError ρ) Expression :=
  match Operator.ofSymbol? text with
  | none => .error (.malformed (.operator text))
  | some op =>
    match children with
    | [field, value] =>
      if !field.kind.isPlainName then .error (field.misplaced .field)
      else if !value.kind.isLiteral then .error (value.misplaced .value)
      else .ok (.comparison op field.field (.ofNode value.kind value.text))
    | _ => .error (.malformed (.comparison text))

def join (combine : Expression → Expression → Expression) (connective : NodeKind) :
    List Expression → Except (CompileError ρ) Expression
  | first :: second :: rest => .ok (rest.foldl combine (combine first second))
  | _ => .error (.malformed (.operands connective))

mutual

def ofNode (node : Node ρ) : Except (CompileError ρ) Expression :=
  match node with
  | ⟨kind, text, place, children⟩ =>
    match kind with
    | .and =>
      if children.length < 2 then .error (.malformed (.operands .and))
      else (ofNodes children).bind (join .and .and)
    | .or =>
      if children.length < 2 then .error (.malformed (.operands .or))
      else (ofNodes children).bind (join .or .or)
    | .not =>
      match children with
      | [operand] => (ofNode operand).map .not
      | _ => .error (.malformed .negation)
    | .group =>
      match children with
      | [inner] => ofNode inner
      | _ => .error (.malformed .group)
    | .comparison => comparisonOf text children
    | _ => .error ((Node.mk kind text place children).fault .filter)
termination_by structural node

def ofNodes (nodes : List (Node ρ)) : Except (CompileError ρ) (List Expression) :=
  match nodes with
  | [] => .ok []
  | node :: rest =>
    match ofNode node with
    | .error e => .error e
    | .ok first => (ofNodes rest).map (first :: ·)
termination_by structural nodes

end
end Expression

namespace Draft

def addSource (draft : Draft) : List (Node ρ) → Except (CompileError ρ) Draft
  | [entity] =>
    if entity.kind.isPlainName then .ok { draft with source := Text.nameOf entity.text }
    else .error (entity.misplaced .source)
  | _ => .error (.malformed .entity)

def addFilter (draft : Draft) : List (Node ρ) → Except (CompileError ρ) Draft
  | [condition] => (Expression.ofNode condition).map fun filter => { draft with filter }
  | _ => .error (.malformed .condition)

/-- A field to sort by, or the direction of the whole ordering. -/
def addOrdering (draft : Draft) (node : Node ρ) : Except (CompileError ρ) Draft :=
  if node.kind.isPlainName then .ok { draft with order := draft.order ++ [node.field] }
  else if node.kind = .direction then
    match Direction.ofWord? node.text with
    | some direction => .ok { draft with direction }
    | none => .error (.malformed (.direction node.text))
  else .error (node.misplaced .ordering)

def countOf (clause : Clause) : List (Node ρ) → Except (CompileError ρ) Nat
  | [count] =>
    if count.kind = .literal .integer then
      match Text.count? count.text.trim with
      | some n => .ok n
      | none => .error (.invalidCount count.text)
    else .error (count.misplaced (.count clause))
  | _ => .error (.malformed (.count clause))

def addPart (draft : Draft) (node : Node ρ) : Except (CompileError ρ) Draft :=
  if node.kind.isName then .ok { draft with fields := draft.fields ++ [node.field] }
  else match node.kind with
    | .clause .source => draft.addSource node.children
    | .clause .filter => draft.addFilter node.children
    | .clause .ordering => node.children.foldlM addOrdering draft
    | .clause .limit => (countOf .limit node.children).map fun n => { draft with limit := n }
    | .clause .offset => (countOf .offset node.children).map fun n => { draft with offset := n }
    | _ => .error (node.fault .projection)

def ofTree (tree : Node ρ) : Except (CompileError ρ) Draft :=
  if tree.kind = .select then tree.children.foldlM addPart empty
  else .error (tree.fault .root)

end Draft

namespace Query

def ofParts (tree : Node ρ) : Except (CompileError ρ) Query :=
  (Draft.ofTree tree).bind fun draft => draft.build.mapError .incomplete

def ofTree (tree : Node ρ) : Except (CompileError ρ) Query :=
  match tree.firstMarker? with
  | some marker => .error (.unreadable marker.text marker.place)
  | none => ofParts tree

def ofText (text : Text) : Except (CompileError Span) Query :=
  ofTree (Tree.ofText text)

end Query
end EntityQuery
