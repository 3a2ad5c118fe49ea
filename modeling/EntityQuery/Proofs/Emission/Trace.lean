import Mathlib.Logic.Function.Basic
import EntityQuery.Proofs.Emission

/-! What a translator is asked for. Its requests for a query come in one order and stop at the first
that is refused; those for an expression can be read back as the expression, and as no other. -/
namespace EntityQuery

/-- How many groups are open after some events, when `n` were open before them; none if one is
closed that is not open. -/
def groupsAfter? (n : Nat) : List Event → Option Nat
  | [] => some n
  | .beginGroup :: rest => groupsAfter? (n + 1) rest
  | .endGroup :: rest =>
    match n with
    | 0 => none
    | n + 1 => groupsAfter? n rest
  | _ :: rest => groupsAfter? n rest

def EachEvent (events : List Event) (p : List Event → Event → List Event → Prop) : Prop :=
  ∀ before event after, events = before ++ event :: after → p before event after

theorem eachEvent_nil (p : List Event → Event → List Event → Prop) : EachEvent [] p :=
  fun before event after h => absurd h.symm (by simp)

theorem eachEvent_cons {first : Event} {rest : List Event}
    {p : List Event → Event → List Event → Prop} :
    EachEvent (first :: rest) p ↔
      p [] first rest ∧
        EachEvent rest fun before event after => p (first :: before) event after := by
  constructor
  · intro h
    refine ⟨h [] first rest rfl, fun before event after he => ?_⟩
    exact h (first :: before) event after (by rw [he, List.cons_append])
  · rintro ⟨hf, hr⟩ before event after he
    cases before with
    | nil =>
      obtain ⟨rfl, rfl⟩ := List.cons.inj he
      exact hf
    | cons head more =>
      obtain ⟨rfl, hm⟩ := List.cons.inj he
      exact hr more event after hm

theorem eachEvent_append {xs ys : List Event} {p : List Event → Event → List Event → Prop} :
    EachEvent (xs ++ ys) p ↔
      (EachEvent xs fun before event after => p before event (after ++ ys)) ∧
        EachEvent ys fun before event after => p (xs ++ before) event after := by
  induction xs generalizing p with
  | nil => simp [eachEvent_nil]
  | cons first rest ih => simp only [List.cons_append, eachEvent_cons, ih, and_assoc]

def Event.Joins (event : Event) : Prop :=
  event = .and ∨ event = .or

theorem Event.Joins.ne_beginGroup {event : Event} (h : event.Joins) : event ≠ .beginGroup := by
  rcases h with rfl | rfl <;> simp

theorem Event.Joins.ne_endGroup {event : Event} (h : event.Joins) : event ≠ .endGroup := by
  rcases h with rfl | rfl <;> simp

/-- What stands around an event of an expression: around a connective two operands in a group, and
after the beginning of a group either two operands with a connective between them or, after a
`NOT`, a single comparison. -/
structure Surrounded (before : List Event) (event : Event) (after : List Event) : Prop where
  connective : event.Joins → ∃ (outer : List Event) (left right : Expression) (rest : List Event),
    before = outer ++ .beginGroup :: left.events ∧ after = right.events ++ .endGroup :: rest
  group : event = .beginGroup →
    (∃ (left right : Expression) (joining : Event) (rest : List Event), joining.Joins ∧
      after = left.events ++ joining :: (right.events ++ .endGroup :: rest)) ∨
    ∃ outer op field value rest, before = outer ++ [.not] ∧
      after = .comparison op field value :: .endGroup :: rest

theorem surrounded_plain {event : Event} (hj : ¬event.Joins) (hb : event ≠ .beginGroup)
    (before after : List Event) : Surrounded before event after :=
  ⟨fun h => absurd h hj, fun h => absurd h hb⟩

namespace Expression

def negated : Expression → List Event
  | comparison op field value => [.beginGroup, .comparison op field value, .endGroup]
  | operand => operand.events

def joined (joining : Event) (left right : Expression) : List Event :=
  .beginGroup :: (left.events ++ joining :: (right.events ++ [.endGroup]))

theorem events_and (left right : Expression) :
    (and left right).events = joined .and left right := by
  simp [events, joined]

theorem events_or (left right : Expression) :
    (or left right).events = joined .or left right := by
  simp [events, joined]

theorem events_negated (operand : Expression) : (not operand).events = .not :: operand.negated := by
  cases operand <;> rfl

theorem negated_cases (operand : Expression) :
    (∃ op field value, operand = comparison op field value) ∨ operand.negated = operand.events := by
  cases operand with
  | comparison op field value => exact .inl ⟨op, field, value, rfl⟩
  | _ => exact .inr rfl

section Joined
variable {joining : Event} {left right : Expression}

theorem groupsAfter?_plain {event : Event} (hb : event ≠ .beginGroup) (he : event ≠ .endGroup)
    (n : Nat) (rest : List Event) : groupsAfter? n (event :: rest) = groupsAfter? n rest := by
  cases event with
  | beginGroup => exact absurd rfl hb
  | endGroup => exact absurd rfl he
  | _ => rfl

theorem groupsAfter?_joined (hj : joining.Joins) (n : Nat) (rest : List Event)
    (hl : ∀ n rest, groupsAfter? n (left.events ++ rest) = groupsAfter? n rest)
    (hr : ∀ n rest, groupsAfter? n (right.events ++ rest) = groupsAfter? n rest) :
    groupsAfter? n (joined joining left right ++ rest) = groupsAfter? n rest := by
  have hp (rest : List Event) :
      groupsAfter? (n + 1) (joining :: rest) = groupsAfter? (n + 1) rest :=
    groupsAfter?_plain hj.ne_beginGroup hj.ne_endGroup (n + 1) rest
  simp [joined, groupsAfter?, hl, hp, hr]

theorem surrounded_joined (hj : joining.Joins) (outer post : List Event)
    (hl : ∀ outer post, EachEvent left.events fun before event after =>
      Surrounded (outer ++ before) event (after ++ post))
    (hr : ∀ outer post, EachEvent right.events fun before event after =>
      Surrounded (outer ++ before) event (after ++ post)) :
    EachEvent (joined joining left right) fun before event after =>
      Surrounded (outer ++ before) event (after ++ post) := by
  have hleft := hl (outer ++ [.beginGroup]) (joining :: (right.events ++ [.endGroup]) ++ post)
  have hright := hr (outer ++ .beginGroup :: (left.events ++ [joining])) (.endGroup :: post)
  simp only [joined, eachEvent_cons, eachEvent_append, List.append_nil]
  refine ⟨⟨fun h => absurd rfl h.ne_beginGroup, fun _ => ?_⟩, ?_, ⟨fun _ => ?_, fun h => ?_⟩, ?_,
    ⟨fun h => absurd rfl h.ne_endGroup, fun h => nomatch h⟩, eachEvent_nil _⟩
  · exact .inl ⟨left, right, joining, post, hj, by simp⟩
  · simpa using hleft
  · exact ⟨outer, left, right, post, by simp, by simp⟩
  · exact absurd h hj.ne_beginGroup
  · simpa using hright

end Joined

theorem groupsAfter?_events (e : Expression) (n : Nat) (rest : List Event) :
    groupsAfter? n (e.events ++ rest) = groupsAfter? n rest := by
  induction e generalizing n rest with
  | comparison op field value => rfl
  | and left right ihl ihr =>
    rw [events_and]
    exact groupsAfter?_joined (.inl rfl) n rest ihl ihr
  | or left right ihl ihr =>
    rw [events_or]
    exact groupsAfter?_joined (.inr rfl) n rest ihl ihr
  | not operand ih =>
    have hn (rest : List Event) : groupsAfter? n (.not :: rest) = groupsAfter? n rest := rfl
    rw [events_negated, List.cons_append, hn]
    obtain ⟨op, field, value, rfl⟩ | ho := operand.negated_cases
    · rfl
    · rw [ho, ih]

theorem surrounded_events (e : Expression) (outer post : List Event) :
    EachEvent e.events fun before event after =>
      Surrounded (outer ++ before) event (after ++ post) := by
  have hcomparison (op field value) (before after : List Event) :
      Surrounded before (.comparison op field value) after :=
    surrounded_plain (by simp [Event.Joins]) (by simp) before after
  induction e generalizing outer post with
  | comparison op field value =>
    rw [events, eachEvent_cons]
    exact ⟨hcomparison .., eachEvent_nil _⟩
  | and left right ihl ihr =>
    rw [events_and]
    exact surrounded_joined (.inl rfl) outer post ihl ihr
  | or left right ihl ihr =>
    rw [events_or]
    exact surrounded_joined (.inr rfl) outer post ihl ihr
  | not operand ih =>
    rw [events_negated, eachEvent_cons]
    refine ⟨surrounded_plain (by simp [Event.Joins]) (by simp) _ _, ?_⟩
    obtain ⟨op, field, value, rfl⟩ | ho := operand.negated_cases
    · simp only [negated, eachEvent_cons]
      refine ⟨⟨fun h => absurd rfl h.ne_beginGroup, fun _ => ?_⟩, hcomparison ..,
        surrounded_plain (by simp [Event.Joins]) (by simp) _ _, eachEvent_nil _⟩
      exact .inr ⟨outer, op, field, value, post, rfl, rfl⟩
    · have hi := ih (outer ++ [.not]) post
      rw [ho]
      simpa only [List.append_assoc, List.cons_append, List.nil_append] using hi

theorem eq_comparison_of_events {op : Operator} {field : Field} {value : Value} {f : Expression}
    {r s : List Event} (h : .comparison op field value :: r = f.events ++ s) :
    comparison op field value = f ∧ r = s := by
  cases f with
  | comparison op' field' value' => simpa [events] using h
  | and left right => simp [events_and, joined] at h
  | or left right => simp [events_or, joined] at h
  | not operand => simp [events_negated] at h

theorem lone_ne_joined {op : Operator} {field : Field} {value : Value} {joining : Event}
    (hj : joining.Joins) {left right : Expression} {r s : List Event} :
    [.beginGroup, .comparison op field value, .endGroup] ++ r ≠ joined joining left right ++ s := by
  intro h
  simp only [joined, List.cons_append, List.nil_append, List.append_assoc, List.cons.injEq,
    true_and] at h
  obtain ⟨-, ht⟩ := eq_comparison_of_events h
  exact hj.ne_endGroup (List.cons.inj ht).1.symm

theorem lone_ne_events {op : Operator} {field : Field} {value : Value} {f : Expression}
    {r s : List Event} :
    [.beginGroup, .comparison op field value, .endGroup] ++ r ≠ f.events ++ s := by
  cases f with
  | comparison op' field' value' => simp [events]
  | and left right =>
    rw [events_and]
    exact lone_ne_joined (.inl rfl)
  | or left right =>
    rw [events_or]
    exact lone_ne_joined (.inr rfl)
  | not operand => simp [events_negated]

/-- Whether the events of an expression say where they end and of which expression they are. -/
def Readable (e : Expression) : Prop :=
  ∀ {f : Expression} {r s : List Event}, e.events ++ r = f.events ++ s → e = f ∧ r = s

theorem joined_append_inj {joining other : Event} {left right left' right' : Expression}
    {r s : List Event} (hl : left.Readable) (hr : right.Readable)
    (h : joined joining left right ++ r = joined other left' right' ++ s) :
    joining = other ∧ left = left' ∧ right = right' ∧ r = s := by
  simp only [joined, List.cons_append, List.append_assoc, List.cons.injEq, true_and,
    List.nil_append] at h
  obtain ⟨rfl, hm⟩ := hl h
  obtain ⟨hj, hm⟩ := List.cons.inj hm
  obtain ⟨rfl, he⟩ := hr hm
  exact ⟨hj, rfl, rfl, (List.cons.inj he).2⟩

theorem negated_append_inj {operand f : Expression} {r s : List Event} (ho : operand.Readable)
    (h : operand.negated ++ r = f.negated ++ s) : operand = f ∧ r = s := by
  obtain ⟨op, field, value, rfl⟩ | hn := operand.negated_cases
  · obtain ⟨op', field', value', rfl⟩ | hf := f.negated_cases
    · simpa [negated] using h
    · rw [hf] at h
      exact absurd h lone_ne_events
  · rw [hn] at h
    obtain ⟨op', field', value', rfl⟩ | hf := f.negated_cases
    · exact absurd h.symm lone_ne_events
    · rw [hf] at h
      exact ho h

theorem readable (e : Expression) : e.Readable := by
  intro f r s h
  induction e generalizing f r s with
  | comparison op field value => exact eq_comparison_of_events h
  | and left right ihl ihr =>
    rw [events_and] at h
    cases f with
    | comparison op field value => simp [events, joined] at h
    | and left' right' =>
      rw [events_and] at h
      obtain ⟨-, rfl, rfl, ht⟩ := joined_append_inj ihl ihr h
      exact ⟨rfl, ht⟩
    | or left' right' =>
      rw [events_or] at h
      exact nomatch (joined_append_inj ihl ihr h).1
    | not operand => simp [events_negated, joined] at h
  | or left right ihl ihr =>
    rw [events_or] at h
    cases f with
    | comparison op field value => simp [events, joined] at h
    | and left' right' =>
      rw [events_and] at h
      exact nomatch (joined_append_inj ihl ihr h).1
    | or left' right' =>
      rw [events_or] at h
      obtain ⟨-, rfl, rfl, ht⟩ := joined_append_inj ihl ihr h
      exact ⟨rfl, ht⟩
    | not operand => simp [events_negated, joined] at h
  | not operand ih =>
    rw [events_negated, List.cons_append] at h
    cases f with
    | comparison op field value => simp [events] at h
    | and left right => simp [events_and, joined] at h
    | or left right => simp [events_or, joined] at h
    | not other =>
      rw [events_negated, List.cons_append] at h
      obtain ⟨rfl, ht⟩ := negated_append_inj ih (List.cons.inj h).2
      exact ⟨rfl, ht⟩

theorem events_injective : Function.Injective events := by
  intro e f h
  exact (e.readable (congrArg (· ++ []) h)).1

end Expression

namespace Translator
variable {σ : Type}

inductive Request where
  | event (event : Event)
  | result

def recorded (t : Translator σ) : Translator (List Request × σ) where
  call event s := ((t.call event s.2).1, s.1 ++ [.event event], (t.call event s.2).2)
  result s := ((t.result s.2).1, s.1 ++ [.result], (t.result s.2).2)

variable (t : Translator σ)

theorem recorded_call (event : Event) (log : List Request) (s : σ) :
    t.recorded.call event (log, s) =
      ((t.call event s).1, log ++ [.event event], (t.call event s).2) :=
  rfl

theorem recorded_run_ok {events : List Event} {s reached : σ}
    (h : t.run events s = (.ok (), reached)) (log : List Request) :
    t.recorded.run events (log, s) = (.ok (), log ++ events.map .event, reached) := by
  induction events generalizing log s with
  | nil =>
    rw [run] at h ⊢
    rw [(Prod.mk.inj h).2, List.map_nil, List.append_nil]
  | cons event rest ih =>
    rw [run] at h
    cases hc : t.call event s with
    | mk outcome next =>
      rw [hc] at h
      cases outcome with
      | error e => cases h
      | ok u =>
        have hr : t.recorded.call event (log, s) = (.ok (), log ++ [.event event], next) := by
          rw [recorded_call, hc]
        rw [t.recorded.run_cons_ok hr, ih h, List.map_cons, List.append_assoc]
        rfl

theorem run_cases (events : List Event) (s : σ) :
    (∃ reached, t.run events s = (.ok (), reached)) ∨
      ∃ before event after reached e left, events = before ++ event :: after ∧
        t.run before s = (.ok (), reached) ∧ t.call event reached = (.error e, left) ∧
        t.run events s = (.error e, left) := by
  induction events generalizing s with
  | nil => exact .inl ⟨s, rfl⟩
  | cons event rest ih =>
    cases hc : t.call event s with
    | mk outcome next =>
      cases outcome with
      | error e => exact .inr ⟨[], event, rest, s, e, next, rfl, rfl, hc, by rw [run, hc]⟩
      | ok u =>
        have hr (more : List Event) : t.run (event :: more) s = t.run more next :=
          t.run_cons_ok hc more
        obtain ⟨reached, h⟩ | ⟨before, refused, after, reached, e, left, rfl, hb, he, h⟩ := ih next
        · exact .inl ⟨reached, (hr rest).trans h⟩
        · exact .inr ⟨event :: before, refused, after, reached, e, left, rfl, (hr before).trans hb,
            he, (hr _).trans h⟩

theorem recorded_translate (query : Query) (s : σ) :
    (∃ reached, t.run query.events s = (.ok (), reached) ∧
      (t.recorded.translate query ([], s)).1 = .ok (t.result reached).1 ∧
      (t.recorded.translate query ([], s)).2.1 = query.events.map .event ++ [.result]) ∨
    ∃ before event after reached e, query.events = before ++ event :: after ∧
      t.run before s = (.ok (), reached) ∧ (t.call event reached).1 = .error e ∧
      (t.recorded.translate query ([], s)).1 = .error e ∧
      (t.recorded.translate query ([], s)).2.1 =
        (before ++ [event]).map .event ++ [.result] := by
  obtain ⟨reached, h⟩ | ⟨before, event, after, reached, e, left, he, hb, hc, -⟩ :=
    t.run_cases query.events s
  · have hr := t.recorded_run_ok h []
    refine .inl ⟨reached, h, ?_, ?_⟩
    · rw [translate, hr]
      rfl
    · rw [translate, hr]
      rfl
  · have hr := t.recorded_run_ok hb []
    have hl : t.recorded.run query.events ([], s) =
        (.error e, before.map .event ++ [.event event], left) := by
      rw [he, t.recorded.run_append_ok hr, run, recorded_call, hc]
      rfl
    refine .inr ⟨before, event, after, reached, e, he, hb, by rw [hc], ?_, ?_⟩
    · rw [translate, hl]
      rfl
    · rw [translate, hl, List.map_append]
      rfl

end Translator

/-- Emission is ordered, stops at the first refusal, and loses nothing of the filter. A translator,
whatever it refuses, is asked for the fields, the source, the filter if there is one, the order if
there are fields to order by, the limit and the offset, up to the first event that it refuses, and
then for its result once; the outcome is that result or that refusal. The events of an expression
open and close matching groups, every connective stands between two operands in a group of its own,
and no two expressions have the same events. -/
theorem emission_keeps_order_and_filter :
    (∀ (σ : Type) (t : Translator σ) (query : Query) (s : σ),
      let done := t.recorded.translate query ([], s)
      (∃ reached, t.run query.events s = (.ok (), reached) ∧
        done.1 = .ok (t.result reached).1 ∧
        done.2.1 = query.events.map .event ++ [.result]) ∨
      ∃ before event after reached e, query.events = before ++ event :: after ∧
        t.run before s = (.ok (), reached) ∧ (t.call event reached).1 = .error e ∧
        done.1 = .error e ∧ done.2.1 = (before ++ [event]).map .event ++ [.result]) ∧
    (∀ query : Query, query.events =
      [.fields query.fields, .source query.source] ++
        (match query.filter with
          | some filter => .filter :: filter.events
          | none => []) ++
        (if query.order ≠ [] then [.order query.order query.direction] else []) ++
        query.limit.toList.map .limit ++ query.offset.toList.map .offset) ∧
    (∀ (e : Expression) (n : Nat), groupsAfter? n e.events = some n) ∧
    (∀ e : Expression, EachEvent e.events Surrounded) ∧
    Function.Injective Expression.events := by
  refine ⟨fun σ t query s => t.recorded_translate query s, fun query => ?_, fun e n => ?_,
    fun e => ?_, Expression.events_injective⟩
  · cases hf : query.filter <;> cases ho : query.order <;> cases hl : query.limit <;>
      cases hx : query.offset <;> simp [Query.events, hf, ho, hl, hx]
  · have h := e.groupsAfter?_events n []
    rwa [List.append_nil] at h
  · simpa using e.surrounded_events [] []

end EntityQuery
