import EntityQuery.Proofs.Emission
import EntityQuery.Proofs.Query.Meaning
import EntityQuery.Sql.Assembly

/-! The filter of a statement is the filter of the query. The events of an expression have the
effect of one operand, whatever is open around them. -/
namespace EntityQuery.Sql

def Condition.ofExpression : Expression → Except TranslateError Condition
  | .comparison op field value => ofComparison op field.name value
  | .and left right =>
    (ofExpression left).bind fun left => (ofExpression right).map fun right => left.and right
  | .or left right =>
    (ofExpression left).bind fun left => (ofExpression right).map fun right => left.or right
  | .not operand => (ofExpression operand).map .not

def Connective.join (left right : Condition) : Connective → Condition
  | and => left.and right
  | or => left.or right

def Expressible (e : Expression) : Prop :=
  ∀ op field value, (op, field, value) ∈ e.comparisons →
    ∃ c, Condition.ofComparison op field.name value = .ok c

theorem Expressible.mono {e part : Expression} (h : Expressible e)
    (hs : part.comparisons ⊆ e.comparisons) : Expressible part :=
  fun op field value hm => h op field value (hs hm)

theorem Expressible.exists_condition {e : Expression} (h : Expressible e) :
    ∃ c, Condition.ofExpression e = .ok c := by
  induction e with
  | comparison op field value => exact h op field value (by simp [Expression.comparisons])
  | and left right ihl ihr =>
    obtain ⟨l, hl⟩ := ihl (h.mono (List.subset_append_left _ _))
    obtain ⟨r, hr⟩ := ihr (h.mono (List.subset_append_right _ _))
    exact ⟨l.and r, by simp [Condition.ofExpression, hl, hr, Except.bind, Except.map]⟩
  | or left right ihl ihr =>
    obtain ⟨l, hl⟩ := ihl (h.mono (List.subset_append_left _ _))
    obtain ⟨r, hr⟩ := ihr (h.mono (List.subset_append_right _ _))
    exact ⟨l.or r, by simp [Condition.ofExpression, hl, hr, Except.bind, Except.map]⟩
  | not operand ih =>
    obtain ⟨c, hc⟩ := ih h
    exact ⟨c.not, by simp [Condition.ofExpression, hc, Except.map]⟩

theorem exists_operands {left right : Expression} {join : Condition → Condition → Condition}
    {c : Condition} (h : ((Condition.ofExpression left).bind fun l =>
      (Condition.ofExpression right).map fun r => join l r) = .ok c) :
    ∃ l r, Condition.ofExpression left = .ok l ∧ Condition.ofExpression right = .ok r ∧
      join l r = c := by
  cases hl : Condition.ofExpression left with
  | error e => simp [hl, Except.bind] at h
  | ok l =>
    cases hr : Condition.ofExpression right with
    | error e => simp [hl, hr, Except.bind, Except.map] at h
    | ok r =>
      have hj : join l r = c := by simpa [hl, hr, Except.bind, Except.map] using h
      exact ⟨l, r, rfl, rfl, hj⟩

namespace Assembly
variable (assembly : Assembly)

theorem negate_succ (n : Nat) (condition : Condition) :
    negate (n + 1) condition = negate n condition.not := by
  induction n with
  | zero => rfl
  | succ n ih =>
    rw [negate, Nat.repeat]
    exact congrArg Condition.not ih

theorem push_negated (condition : Condition) :
    push { assembly with negations := assembly.negations + 1 } condition =
      assembly.push condition.not := by
  simp only [push, negate_succ]

/-- A group of one operand is the operand, negated as often as is pending. -/
theorem endGroup_push (condition : Condition) :
    ((assembly.beginGroup).push condition).endGroup = assembly.push condition := by
  simp only [beginGroup, push, endGroup, Group.add, Group.empty, negate, Nat.repeat]

theorem endGroup_connected (connective : Connective) (left right : Condition) :
    (((assembly.beginGroup.push left).connect connective).push right).endGroup =
      assembly.push (connective.join left right) := by
  cases connective <;>
    simp only [Connective.join, beginGroup, push, connect, endGroup, Group.add, Group.empty, negate,
      Nat.repeat]

end Assembly

theorem run_connected (connective : Connective) {left right : List Event} {l r : Condition}
    {event : Event} (he : ∀ a, translator.call event a = (.ok (), a.connect connective))
    (hl : ∀ a, translator.run left a = (.ok (), a.push l))
    (hr : ∀ a, translator.run right a = (.ok (), a.push r)) (assembly : Assembly) :
    translator.run (.beginGroup :: left ++ event :: right ++ [.endGroup]) assembly =
      (.ok (), assembly.push (connective.join l r)) := by
  have hb : translator.call .beginGroup assembly = (.ok (), assembly.beginGroup) := rfl
  calc
    translator.run (.beginGroup :: left ++ event :: right ++ [.endGroup]) assembly
        = translator.run (.beginGroup :: (left ++ event :: (right ++ [.endGroup]))) assembly := by
          simp only [List.cons_append, List.append_assoc]
      _ = translator.run (left ++ event :: (right ++ [.endGroup])) assembly.beginGroup :=
          translator.run_cons_ok hb _
      _ = translator.run (event :: (right ++ [.endGroup])) (assembly.beginGroup.push l) :=
          translator.run_append_ok (hl _) _
      _ = translator.run (right ++ [.endGroup])
            ((assembly.beginGroup.push l).connect connective) :=
          translator.run_cons_ok (he _) _
      _ = translator.run [.endGroup]
            (((assembly.beginGroup.push l).connect connective).push r) :=
          translator.run_append_ok (hr _) _
      _ = (.ok (), assembly.push (connective.join l r)) := by
          rw [← assembly.endGroup_connected]
          rfl

/-- The events of an expression have the effect of its condition as one operand. -/
theorem run_events {e : Expression} {c : Condition} (h : Condition.ofExpression e = .ok c)
    (assembly : Assembly) : translator.run e.events assembly = (.ok (), assembly.push c) := by
  induction e generalizing c assembly with
  | comparison op field value =>
    rw [Condition.ofExpression] at h
    simp [Expression.events, Translator.run, translator, Assembly.call, h]
  | and left right ihl ihr =>
    obtain ⟨l, r, hl, hr, rfl⟩ := exists_operands h
    exact run_connected .and (fun _ => rfl) (ihl hl) (ihr hr) assembly
  | or left right ihl ihr =>
    obtain ⟨l, r, hl, hr, rfl⟩ := exists_operands h
    exact run_connected .or (fun _ => rfl) (ihl hl) (ihr hr) assembly
  | not operand ih =>
    rw [Condition.ofExpression] at h
    cases ho : Condition.ofExpression operand with
    | error e => simp [ho, Except.map] at h
    | ok inner =>
      obtain rfl : inner.not = c := by simpa [ho, Except.map] using h
      have hn : translator.call .not assembly =
          (.ok (), { assembly with negations := assembly.negations + 1 }) := rfl
      have hi := ih ho
      rw [← assembly.push_negated]
      obtain ⟨op, field, value, rfl⟩ | he := operand.events_not
      · have hb := fun a : Assembly =>
          (rfl : translator.call .beginGroup a = (.ok (), a.beginGroup))
        change translator.run (.not :: .beginGroup ::
          ((Expression.comparison op field value).events ++ [.endGroup])) assembly = _
        rw [translator.run_cons_ok hn, translator.run_cons_ok (hb _),
          translator.run_append_ok (hi _), ← Assembly.endGroup_push]
        rfl
      · rw [he, translator.run_cons_ok hn, hi]

theorem run_filter {e : Expression} {c : Condition} (h : Condition.ofExpression e = .ok c)
    (assembly : Assembly) :
    translator.run (.filter :: e.events) assembly =
      (.ok (), { assembly with groups := [⟨some c, none, 0⟩], negations := 0 }) := by
  have hf : translator.call .filter assembly = (.ok (), assembly.beginFilter) := rfl
  rw [translator.run_cons_ok hf, run_events h]
  rfl

def Condition.ofFilter : Option Expression → Except TranslateError (Option Condition)
  | none => .ok none
  | some e => (ofExpression e).map some

/-- The statement with the clauses of a query besides its filter, whose source has the table. -/
def Statement.extend (s : Statement) (query : Query) (table : Text) : Statement :=
  { s with
    columns := s.columns ++ query.fields.map .ofField
    tables := s.tables ++ [table]
    order := s.order ++ query.order.map fun field => (field.name, query.direction.getD .asc)
    limit := query.limit.or s.limit
    offset := query.offset.or s.offset }

/-- The assembly with a query of a given condition. A query without a filter leaves the groups as
they are. -/
def Assembly.extend (a : Assembly) (query : Query) (condition : Option Condition) : Assembly :=
  { a with
    statement := a.statement.extend query (a.table query.source)
    groups := condition.elim a.groups fun c => [⟨some c, none, 0⟩]
    negations := condition.elim a.negations fun _ => 0 }

theorem run_query {query : Query} {condition : Option Condition}
    (h : Condition.ofFilter query.filter = .ok condition) (a : Assembly) :
    translator.run query.events a = (.ok (), a.extend query condition) := by
  let head := a.edit fun s => { s with
    columns := s.columns ++ query.fields.map .ofField
    tables := s.tables ++ [a.table query.source] }
  have hh : translator.run [.fields query.fields, .source query.source] a = (.ok (), head) := rfl
  have hf : translator.run (query.filter.elim [] fun filter => .filter :: filter.events) head =
      (.ok (), { head with
        groups := condition.elim a.groups fun c => [⟨some c, none, 0⟩]
        negations := condition.elim a.negations fun _ => 0 }) := by
    cases hq : query.filter with
    | none =>
      rw [hq] at h
      obtain rfl := Except.ok.inj h
      rfl
    | some e =>
      cases hc : Condition.ofExpression e with
      | error refusal => simp [hq, Condition.ofFilter, hc, Except.map] at h
      | ok c =>
        obtain rfl : some c = condition := by
          simpa [hq, Condition.ofFilter, hc, Except.map] using h
        exact run_filter hc head
  have ht (b : Assembly) : translator.run
      ((if query.order.isEmpty then [] else [.order query.order query.direction]) ++
        (query.limit.elim [] fun n => [.limit n]) ++ query.offset.elim [] fun n => [.offset n]) b =
      (.ok (), b.edit fun s => { s with
        order := s.order ++ query.order.map fun field => (field.name, query.direction.getD .asc)
        limit := query.limit.or s.limit
        offset := query.offset.or s.offset }) := by
    cases query.order <;> cases query.limit <;> cases query.offset <;>
      simp [Translator.run, translator, Assembly.call, Assembly.edit]
  have he : query.events = [.fields query.fields, .source query.source] ++
      ((query.filter.elim [] fun filter => .filter :: filter.events) ++
        ((if query.order.isEmpty then [] else [.order query.order query.direction]) ++
          (query.limit.elim [] fun n => [.limit n]) ++
          query.offset.elim [] fun n => [.offset n])) := by
    simp only [Query.events, List.cons_append, List.nil_append, List.append_assoc]
  rw [he, translator.run_append_ok hh, translator.run_append_ok hf, ht]
  rfl

/-- A filter of comparisons that a statement can make is rebuilt exactly, in whatever state the
assembly is: its events have the effect of one operand, and the statement of a query has it as its
filter. -/
theorem rebuilds_filter (e : Expression) (h : Expressible e) :
    ∃ c, Condition.ofExpression e = .ok c ∧
      (∀ a, translator.run e.events a = (.ok (), a.push c)) ∧
      (∀ a, translator.run (.filter :: e.events) a =
        (.ok (), { a with groups := [⟨some c, none, 0⟩], negations := 0 })) ∧
      ∀ (q : Query) (a : Assembly), q.filter = some e →
        ∃ done, translator.run q.events a = (.ok (), done) ∧ done.complete.filter = some c ∧
          (translator.translate q a).1 = .ok (done.complete.render a.dialect) := by
  obtain ⟨c, hc⟩ := h.exists_condition
  refine ⟨c, hc, run_events hc, run_filter hc, fun q a hq => ?_⟩
  have hf : Condition.ofFilter q.filter = .ok (some c) := by
    rw [hq, Condition.ofFilter, hc]
    rfl
  refine ⟨a.extend q (some c), run_query hf a, rfl, ?_⟩
  rw [Translator.translate, run_query hf a]
  rfl

theorem rebuilds_filter_nested :
    translator.run (Expression.not (.not (.and (.comparison .eq (.named ['a']) (.int 1))
      (.not (.comparison .eq (.named ['b']) .null))))).events (.start .sqlite []) =
      (.ok (), (Assembly.start .sqlite []).push
        (.not (.not (.and (.compare .eq ['a'] (.int 1)) (.not (.isNull ['b'])))))) := by
  obtain ⟨c, hc, hr, -⟩ := rebuilds_filter
    (.not (.not (.and (.comparison .eq (.named ['a']) (.int 1))
      (.not (.comparison .eq (.named ['b']) .null)))))
    (by
      intro op field value hm
      simp only [Expression.comparisons, List.mem_append, List.mem_singleton, Prod.mk.injEq] at hm
      rcases hm with ⟨rfl, rfl, rfl⟩ | ⟨rfl, rfl, rfl⟩ <;> exact ⟨_, rfl⟩)
  obtain rfl := Except.ok.inj hc
  exact hr _

end EntityQuery.Sql
