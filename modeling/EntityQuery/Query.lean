import EntityQuery.Value

/-!
Queries: which fields of which entity, under which condition, in which order, and which rows.
-/
namespace EntityQuery

structure Field where
  name : Text
  type : Text
  deriving DecidableEq

namespace Field

def named (name : Text) : Field :=
  ⟨name, "string".toList⟩

def isWildcard (field : Field) : Bool :=
  field.name = ['*']

end Field

inductive Expression where
  | comparison (op : Operator) (field : Field) (value : Value)
  | and (left right : Expression)
  | or (left right : Expression)
  | not (operand : Expression)
  deriving DecidableEq

def Expression.isCompound : Expression → Bool
  | and _ _ => true
  | or _ _ => true
  | _ => false

structure Query where
  fields : List Field
  fields_ne_nil : fields ≠ []
  source : Text
  filter : Option Expression
  order : List Field
  direction : Option Direction
  limit : Option Nat
  offset : Option Nat
  deriving DecidableEq

/-- A query of which some parts may still be missing. -/
structure Draft where
  fields : List Field
  source : Option Text
  filter : Option Expression
  order : List Field
  direction : Option Direction
  limit : Option Nat
  offset : Option Nat

inductive Incomplete where
  | fields
  | source
  deriving DecidableEq

def Incomplete.message : Incomplete → String
  | fields => "query has no projected fields"
  | source => "query has no source entity"

namespace Draft

def empty : Draft :=
  ⟨[], none, none, [], none, none, none⟩

def build (draft : Draft) : Except Incomplete Query :=
  if h : draft.fields = [] then .error .fields
  else match draft.source with
    | none => .error .source
    | some source =>
      .ok ⟨draft.fields, h, source, draft.filter, draft.order, draft.direction, draft.limit,
        draft.offset⟩

end Draft
end EntityQuery
