import EntityQuery.Lexeme

/-!
Labelled trees of query texts. A node has a kind, a text and a place; what places are is left
open, since trees need not come from a text.
-/
namespace EntityQuery

inductive NodeKind where
  | select
  | clause (clause : Clause)
  | and
  | or
  | not
  | group
  | comparison
  | direction
  | literal (kind : LiteralKind)
  | null
  | wildcard
  | errorMarker
  deriving DecidableEq

namespace NodeKind

def name : NodeKind → String
  | select => "Select"
  | clause .source => "From"
  | clause .filter => "Where"
  | clause .ordering => "OrderBy"
  | clause .limit => "Limit"
  | clause .offset => "Offset"
  | and => "And"
  | or => "Or"
  | not => "Not"
  | group => "OpenParen"
  | comparison => "Operator"
  | direction => "AscDesc"
  | literal .identifier => "Identifier"
  | literal kind => kind.name ++ "Literal"
  | null => "NullLiteral"
  | wildcard => "Wildcard"
  | errorMarker => "ErrorMarker"

def isPlainName (kind : NodeKind) : Bool :=
  kind = literal .identifier || kind = literal .string

def isName (kind : NodeKind) : Bool :=
  kind.isPlainName || kind = wildcard

def isLiteral : NodeKind → Bool
  | literal _ => true
  | null => true
  | _ => false

end NodeKind

structure Node (ρ : Type) where
  kind : NodeKind
  text : Text
  place : ρ
  children : List (Node ρ)

namespace Node
variable {ρ : Type}

def leaf (kind : NodeKind) (text : Text) (place : ρ) : Node ρ :=
  ⟨kind, text, place, []⟩

mutual

/-- The first error marker of a tree, a node before its children. -/
def firstMarker? (node : Node ρ) : Option (Node ρ) :=
  match node with
  | ⟨kind, text, place, children⟩ =>
    if kind = .errorMarker then some ⟨kind, text, place, children⟩ else firstMarkerOf? children
termination_by structural node

def firstMarkerOf? (nodes : List (Node ρ)) : Option (Node ρ) :=
  match nodes with
  | [] => none
  | node :: rest => (firstMarker? node).or (firstMarkerOf? rest)
termination_by structural nodes

end

end Node

abbrev Tree := Node Span

end EntityQuery
