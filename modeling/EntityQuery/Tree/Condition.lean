import EntityQuery.Tree

/-!
Conditions that are still being read. `NOT` binds tighter than `AND`, `AND` tighter than `OR`,
and both connectives group to the left. Reading is in one of two states: an operand is due, or
one has just been read.
-/
namespace EntityQuery

namespace Tree

def negation (keyword : Span) (operand : Tree) : Tree :=
  ⟨.not, "NOT".toList, keyword.cover operand.place, [operand]⟩

def conjunction (left right : Tree) : Tree :=
  ⟨.and, "AND".toList, left.place.cover right.place, [left, right]⟩

def disjunction (left right : Tree) : Tree :=
  ⟨.or, "OR".toList, left.place.cover right.place, [left, right]⟩

def group (opening closing : Span) (inner : Tree) : Tree :=
  ⟨.group, "(".toList, opening.cover closing, [inner]⟩

def comparison (symbol : Text) (field value : Tree) : Tree :=
  ⟨.comparison, symbol, field.place.cover value.place, [field, value]⟩

end Tree

namespace Condition

/-- What waits for the next operand since the innermost bracket: the left side of an open `OR`,
the left side of an open `AND`, and the `NOT`s, the last one first. -/
structure Pending where
  alternative : Option Tree
  conjunct : Option Tree
  negations : List Span

/-- An operand with the `NOT`s and the left side of an open `AND` that waited for it. -/
def Pending.conjoin (pending : Pending) (operand : Tree) : Tree :=
  let negated := pending.negations.foldl (fun tree keyword => tree.negation keyword) operand
  match pending.conjunct with
  | some left => left.conjunction negated
  | none => negated

/-- The open brackets, the innermost first: where each one stands and what waited before it. -/
abbrev Enclosure := List (Span × Pending)

structure Due where
  enclosure : Enclosure
  pending : Pending

/-- A condition in which an operand has been read, by now the operand of `AND` it ends with. -/
structure Joined where
  enclosure : Enclosure
  alternative : Option Tree
  conjunct : Tree

namespace Due

def start : Due :=
  ⟨[], none, none, []⟩

def negate (due : Due) (keyword : Span) : Due :=
  { due with pending.negations := keyword :: due.pending.negations }

def enter (due : Due) (opening : Span) : Due :=
  ⟨(opening, due.pending) :: due.enclosure, none, none, []⟩

def take (due : Due) (operand : Tree) : Joined :=
  ⟨due.enclosure, due.pending.alternative, due.pending.conjoin operand⟩

end Due

namespace Joined

def whole (joined : Joined) : Tree :=
  match joined.alternative with
  | some left => left.disjunction joined.conjunct
  | none => joined.conjunct

def and (joined : Joined) : Due :=
  ⟨joined.enclosure, joined.alternative, joined.conjunct, []⟩

def or (joined : Joined) : Due :=
  ⟨joined.enclosure, joined.whole, none, []⟩

def leave? (joined : Joined) (closing : Span) : Option Joined :=
  match joined.enclosure with
  | [] => none
  | (opening, pending) :: outer =>
    some ((Due.mk outer pending).take (joined.whole.group opening closing))

end Joined
end Condition
end EntityQuery
