import Mathlib.Data.List.DropRight
import Mathlib.Data.List.Induction
import EntityQuery.Proofs.Emission.Reset
import EntityQuery.Proofs.Emission.Trace

/-! The operands of a filter, for requests in any order. The open groups, read from the outermost
one to the innermost, hold the comparisons that were made, each once and in the order in which they
were made; closing a group, connectives and negations change nothing about that. -/
namespace EntityQuery

namespace Translator
variable {σ : Type}

def serve (t : Translator σ) (s : σ) : Request → σ
  | .event event => (t.call event s).2
  | .result => (t.result s).2

/-- Whether the comparisons before the request are no longer asked for after it. -/
def Request.beginsAnew : Request → Bool
  | .event .filter => true
  | .result => true
  | _ => false

def Request.condition? : Request → Option Sql.Condition
  | .event (.comparison op field value) =>
    (Sql.Condition.ofComparison op field.name value).toOption
  | _ => none

/-- The conditions of the comparisons since the filter was last begun or the result last taken. -/
def conditionsSince (history : List Request) : List Sql.Condition :=
  (history.rtakeWhile fun request => !request.beginsAnew).filterMap Request.condition?

theorem conditionsSince_anew (history : List Request) {request : Request}
    (h : request.beginsAnew = true) : conditionsSince (history ++ [request]) = [] := by
  rw [conditionsSince, List.rtakeWhile_concat_neg _ _ _ (by simp [h])]
  rfl

theorem conditionsSince_concat (history : List Request) {request : Request}
    (h : request.beginsAnew = false) :
    conditionsSince (history ++ [request]) =
      conditionsSince history ++ request.condition?.toList := by
  rw [conditionsSince, List.rtakeWhile_concat_pos _ _ _ (by simp [h]), List.filterMap_append]
  cases hc : request.condition? <;> simp [conditionsSince, hc]

end Translator

namespace Sql

def Condition.leaves : Condition → List Condition
  | and left right => left.leaves ++ right.leaves
  | or left right => left.leaves ++ right.leaves
  | not operand => operand.leaves
  | isNull column => [isNull column]
  | isNotNull column => [isNotNull column]
  | compare op column operand => [compare op column operand]

theorem Condition.leaves_ne_nil (condition : Condition) : condition.leaves ≠ [] := by
  induction condition with
  | and left right ihl ihr => exact List.append_ne_nil_of_left_ne_nil ihl _
  | or left right ihl ihr => exact List.append_ne_nil_of_left_ne_nil ihl _
  | not operand ih => exact ih
  | isNull column => simp [leaves]
  | isNotNull column => simp [leaves]
  | compare op column operand => simp [leaves]

theorem Condition.leaves_ofComparison {op : Operator} {column : Text} {value : Value}
    {condition : Condition} (h : ofComparison op column value = .ok condition) :
    condition.leaves = [condition] := by
  unfold ofComparison at h
  split at h
  · rw [← Except.ok.inj h, leaves]
  · rw [← Except.ok.inj h, leaves]
  · cases h
  · rw [← Except.ok.inj h, leaves]
  · cases h
  · split at h
    · rw [← Except.ok.inj h, leaves]
    · cases h

def filterLeaves (filter : Option Condition) : List Condition :=
  filter.elim [] Condition.leaves

theorem filterLeaves_eq_nil {filter : Option Condition} :
    filterLeaves filter = [] ↔ filter = none := by
  cases filter with
  | none => simp [filterLeaves]
  | some condition => simp [filterLeaves, condition.leaves_ne_nil]

def Group.leaves (group : Group) : List Condition :=
  filterLeaves group.condition

/-- An operand comes after those that the group has, whichever connective waits for it. -/
theorem Group.leaves_add (group : Group) (operand : Condition) :
    (group.add operand).leaves = group.leaves ++ operand.leaves := by
  obtain ⟨condition, connective, negations⟩ := group
  cases condition with
  | none => rfl
  | some left =>
    cases connective with
    | none => rfl
    | some joining => cases joining <;> rfl

namespace Assembly
variable (assembly : Assembly)

/-- The comparisons in the open groups, those of the outermost group first. -/
def leaves : List Condition :=
  assembly.groups.reverse.flatMap Group.leaves

theorem leaves_nil {assembly : Assembly} (h : assembly.groups = []) : assembly.leaves = [] := by
  rw [leaves, h]
  rfl

theorem leaves_cons {assembly : Assembly} {group : Group} {outer : List Group}
    (h : assembly.groups = group :: outer) :
    assembly.leaves = outer.reverse.flatMap Group.leaves ++ group.leaves := by
  simp [leaves, h]

theorem leaves_negate (n : Nat) (condition : Condition) :
    (negate n condition).leaves = condition.leaves := by
  induction n with
  | zero => rfl
  | succ n ih => exact ih

theorem leaves_push (operand : Condition) :
    (assembly.push operand).leaves = assembly.leaves ++ operand.leaves := by
  have hn := leaves_negate assembly.negations operand
  cases hg : assembly.groups with
  | nil =>
    have hp : (assembly.push operand).groups =
        [Group.empty.add (negate assembly.negations operand)] := by
      simp [push, hg]
    rw [leaves_cons hp, leaves_nil hg, Group.leaves_add, hn]
    rfl
  | cons group outer =>
    have hp : (assembly.push operand).groups =
        group.add (negate assembly.negations operand) :: outer := by
      simp [push, hg]
    rw [leaves_cons hp, leaves_cons hg, Group.leaves_add, hn, List.append_assoc]

theorem leaves_connect (connective : Connective) :
    (assembly.connect connective).leaves = assembly.leaves := by
  cases hg : assembly.groups with
  | nil => simp [connect, hg]
  | cons group outer =>
    have hc : (assembly.connect connective).groups =
        { group with connective := some connective } :: outer := by
      simp [connect, hg]
    rw [leaves_cons hc, leaves_cons hg]
    rfl

theorem leaves_beginGroup : assembly.beginGroup.leaves = assembly.leaves := by
  have hb : assembly.beginGroup.groups =
      { Group.empty with negations := assembly.negations } :: assembly.groups := rfl
  rw [leaves_cons hb]
  exact List.append_nil _

/-- The innermost group is the last one, so what it holds stays last in the group around it. -/
theorem leaves_endGroup : assembly.endGroup.leaves = assembly.leaves := by
  cases hg : assembly.groups with
  | nil => simp [endGroup, hg]
  | cons group outer =>
    rw [leaves_cons hg]
    cases hc : group.condition with
    | none =>
      have he : assembly.endGroup = { assembly with groups := outer } := by
        simp [endGroup, hg, hc]
      rw [he, Group.leaves, hc]
      exact (List.append_nil _).symm
    | some condition =>
      have he : assembly.endGroup =
          push { assembly with groups := outer } (negate group.negations condition) := by
        simp [endGroup, hg, hc]
      rw [he, leaves_push, leaves_negate, Group.leaves, hc]
      rfl

theorem leaves_closing {next : Assembly} (h : Relation.ReflTransGen Closing assembly next) :
    next.leaves = assembly.leaves := by
  induction h with
  | refl => rfl
  | tail _ hc ih =>
    cases hc with
    | turn _ => exact (leaves_endGroup _).trans ih

theorem leaves_complete : filterLeaves assembly.complete.filter = assembly.leaves := by
  obtain ⟨hc, hl⟩ := assembly.endGroups_closed
  rw [← leaves_closing assembly hc, complete]
  cases hg : assembly.endGroups.groups with
  | nil => rw [leaves_nil hg]; rfl
  | cons group outer =>
    have ho : outer = [] := by
      rw [hg, List.length_cons] at hl
      exact List.length_eq_zero_iff.mp (by omega)
    rw [leaves_cons hg, ho]
    rfl

theorem leaves_call (event : Event) (h : event ≠ .filter) :
    (assembly.call event).2.leaves =
      assembly.leaves ++ (Translator.Request.event event).condition?.toList := by
  cases event with
  | filter => exact absurd rfl h
  | comparison op field value =>
    cases hc : Condition.ofComparison op field.name value with
    | error e => simp [call, Translator.Request.condition?, hc, Except.toOption]
    | ok condition =>
      simp [call, Translator.Request.condition?, hc, Except.toOption, leaves_push,
        Condition.leaves_ofComparison hc]
  | beginGroup => exact assembly.leaves_beginGroup.trans (List.append_nil _).symm
  | endGroup => exact assembly.leaves_endGroup.trans (List.append_nil _).symm
  | and => exact (assembly.leaves_connect .and).trans (List.append_nil _).symm
  | or => exact (assembly.leaves_connect .or).trans (List.append_nil _).symm
  | _ => exact (List.append_nil _).symm

/-- One request: a new filter has no comparisons yet, and any other request adds its own. -/
theorem leaves_serve (request : Translator.Request) :
    (translator.serve assembly request).leaves =
      if request.beginsAnew then [] else assembly.leaves ++ request.condition?.toList := by
  cases request with
  | result =>
    change assembly.result.2.leaves = []
    rw [result_start]
    rfl
  | event event =>
    by_cases hf : event = .filter
    · subst hf
      rfl
    · have hb : (Translator.Request.event event).beginsAnew = false := by
        cases event with
        | filter => exact absurd rfl hf
        | _ => rfl
      rw [hb]
      exact assembly.leaves_call event hf

theorem leaves_history (dialect : Dialect) (tables : List (Text × Text))
    (history : List Translator.Request) :
    (history.foldl translator.serve (.start dialect tables)).leaves =
      Translator.conditionsSince history := by
  induction history using List.reverseRecOn with
  | nil => rfl
  | append_singleton history request ih =>
    rw [List.foldl_append, List.foldl_cons, List.foldl_nil, leaves_serve]
    cases hb : request.beginsAnew with
    | true => exact (Translator.conditionsSince_anew history hb).symm
    | false =>
      rw [Translator.conditionsSince_concat history hb, ih]
      rfl

end Assembly

/-- No operand of a filter is lost, doubled or moved, in whatever order the requests come. The
statement that the next result writes has a filter whose comparisons, from left to right, are those
since the filter was last begun or the result last taken, in the order in which they were made and
without those that were refused; without any it has no filter. -/
theorem keeps_every_operand (dialect : Dialect) (tables : List (Text × Text))
    (history : List Translator.Request) :
    let reached := history.foldl translator.serve (.start dialect tables)
    (translator.result reached).1 = reached.complete.render reached.dialect ∧
      filterLeaves reached.complete.filter = Translator.conditionsSince history ∧
      (Translator.conditionsSince history = [] ↔ reached.complete.filter = none) := by
  intro reached
  have hl : filterLeaves reached.complete.filter = Translator.conditionsSince history := by
    rw [reached.leaves_complete]
    exact Assembly.leaves_history dialect tables history
  refine ⟨rfl, hl, ?_⟩
  rw [← hl]
  exact filterLeaves_eq_nil

end Sql
end EntityQuery
