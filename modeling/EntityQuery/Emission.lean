import EntityQuery.Query

/-!
How a query is put into a target language. The query gives a fixed sequence of events; a
translator answers them one by one and at the end gives a text.
-/
namespace EntityQuery

inductive Event where
  | fields (fields : List Field)
  | source (entity : Text)
  | filter
  | comparison (op : Operator) (field : Field) (value : Value)
  | beginGroup
  | endGroup
  | and
  | or
  | not
  | order (fields : List Field) (direction : Option Direction)
  | limit (n : Nat)
  | offset (n : Nat)
  deriving DecidableEq

/-- Each connective stands in a group of its own, as does a comparison after `NOT`. -/
def Expression.events : Expression → List Event
  | comparison op field value => [.comparison op field value]
  | and left right => .beginGroup :: left.events ++ .and :: right.events ++ [.endGroup]
  | or left right => .beginGroup :: left.events ++ .or :: right.events ++ [.endGroup]
  | not (comparison op field value) =>
    [.not, .beginGroup, .comparison op field value, .endGroup]
  | not operand => .not :: operand.events

/-- A direction without fields to sort by is left out. -/
def Query.events (query : Query) : List Event :=
  .fields query.fields :: .source query.source ::
    (query.filter.elim [] fun filter => .filter :: filter.events) ++
    (if query.order.isEmpty then [] else [.order query.order query.direction]) ++
    (query.limit.elim [] fun n => [.limit n]) ++
    (query.offset.elim [] fun n => [.offset n])

inductive TranslateError where
  | operator (op : Operator) (text : Text)
  | value (text : Text)
  deriving DecidableEq

def TranslateError.message : TranslateError → Text
  | operator op text =>
    "Operator ".toList ++ op.symbol.toList ++ " is not supported with value ".toList ++ text
  | value text => "Value is not supported by this backend: ".toList ++ text

/-- An event may be refused, with an effect on the state all the same. The result is taken out of
the state. -/
structure Translator (σ : Type) where
  call : Event → σ → Except TranslateError Unit × σ
  result : σ → Text × σ

namespace Translator
variable {σ : Type} (t : Translator σ)

def run : List Event → σ → Except TranslateError Unit × σ
  | [], s => (.ok (), s)
  | event :: rest, s =>
    match t.call event s with
    | (.ok (), s) => run rest s
    | (.error e, s) => (.error e, s)

/-- The text of a query. The result is taken on success and on failure, so that nothing is left
behind. -/
def translate (query : Query) (s : σ) : Except TranslateError Text × σ :=
  let (outcome, s) := t.run query.events s
  let (text, s) := t.result s
  (outcome.map fun () => text, s)

end Translator
end EntityQuery
