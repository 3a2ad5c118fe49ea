import EntityQuery.Query

/-!
Why a tree is not a query.
-/
namespace EntityQuery

/-- The parts of a tree that admit only some kinds of nodes. -/
inductive Position where
  | root
  | projection
  | source
  | filter
  | ordering
  | field
  | value
  | count (clause : Clause)
  deriving DecidableEq

def Position.phrase : Position → String
  | root => "query root"
  | projection => "SELECT"
  | source => "FROM"
  | filter => "WHERE"
  | ordering => "ORDER BY"
  | field => "comparison field"
  | value => "comparison value"
  | count clause => (NodeKind.clause clause).name

/-- What a tree lacks that no tree of a source text lacks. -/
inductive Malformation where
  | unexpected (kind : NodeKind) (text : Text) (position : Position)
  | entity
  | condition
  | operands (connective : NodeKind)
  | negation
  | group
  | operator (text : Text)
  | comparison (text : Text)
  | direction (text : Text)
  | count (clause : Clause)
  deriving DecidableEq

def Malformation.message : Malformation → Text
  | unexpected kind text position =>
    "unexpected ".toList ++ kind.name.toList ++ " node ".toList ++ text.shown ++
      " in ".toList ++ position.phrase.toList
  | entity => "FROM needs exactly one entity".toList
  | condition => "WHERE needs exactly one condition".toList
  | operands connective => connective.name.toList ++ " needs two operands".toList
  | negation => "NOT needs exactly one operand".toList
  | group => "empty parenthesised group".toList
  | operator text => "unknown comparison operator ".toList ++ text.shown
  | comparison text => "comparison ".toList ++ text.shown ++ " needs a field and a value".toList
  | direction text => "unknown sort direction ".toList ++ text.shown
  | count clause => (NodeKind.clause clause).name.toList ++ " needs exactly one count".toList

inductive CompileError (ρ : Type) where
  | unreadable (message : Text) (place : ρ)
  | malformed (malformation : Malformation)
  | invalidCount (text : Text)
  | incomplete (part : Incomplete)
  deriving DecidableEq

def CompileError.message {ρ : Type} : CompileError ρ → Text
  | unreadable message _ => "Syntax error: ".toList ++ message
  | malformed malformation => "Malformed token tree: ".toList ++ malformation.message
  | invalidCount text =>
    "Invalid ".toList ++ (NodeKind.literal .integer).name.toList ++ " literal: ".toList ++ text
  | incomplete part => "Incomplete query: ".toList ++ part.message.toList

end EntityQuery
