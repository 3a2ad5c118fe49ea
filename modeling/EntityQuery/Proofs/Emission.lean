import EntityQuery.Emission

/-! Events in sequence. A translator that accepts the first events goes on with the others from
the state they lead to. -/
namespace EntityQuery

theorem Expression.events_not (operand : Expression) :
    (∃ op field value, operand = comparison op field value) ∨
      (not operand).events = .not :: operand.events := by
  cases operand with
  | comparison op field value => exact .inl ⟨op, field, value, rfl⟩
  | _ => exact .inr rfl

theorem Query.flatMap_events {α : Type} (gather : Event → List α)
    (ho : ∀ fields direction, gather (.order fields direction) = [])
    (hl : ∀ n, gather (.limit n) = []) (hx : ∀ n, gather (.offset n) = []) (query : Query) :
    query.events.flatMap gather = gather (.fields query.fields) ++ (gather (.source query.source) ++
      query.filter.elim [] fun filter => gather .filter ++ filter.events.flatMap gather) := by
  have hf : (query.filter.elim [] fun filter => .filter :: filter.events).flatMap gather =
      query.filter.elim [] fun filter => gather .filter ++ filter.events.flatMap gather := by
    cases query.filter <;> simp
  have htail : ((if query.order.isEmpty then [] else [Event.order query.order query.direction]) ++
      (query.limit.elim [] fun n => [Event.limit n]) ++
      (query.offset.elim [] fun n => [Event.offset n])).flatMap gather = [] := by
    cases query.order <;> cases query.limit <;> cases query.offset <;> simp [ho, hl, hx]
  rw [List.flatMap_append, List.flatMap_append, List.append_assoc] at htail
  simp only [events, List.cons_append, List.flatMap_cons, List.flatMap_append, hf,
    List.append_assoc, htail, List.append_nil]

namespace Translator
variable {σ : Type} (t : Translator σ)

theorem run_cons_ok {event : Event} {s next : σ} (h : t.call event s = (.ok (), next))
    (rest : List Event) : t.run (event :: rest) s = t.run rest next := by
  rw [run, h]

theorem run_append_ok {before : List Event} {s next : σ} (h : t.run before s = (.ok (), next))
    (after : List Event) : t.run (before ++ after) s = t.run after next := by
  induction before generalizing s with
  | nil =>
    rw [run] at h
    rw [List.nil_append, (Prod.mk.inj h).2]
  | cons event rest ih =>
    rw [run] at h
    rw [List.cons_append, run]
    cases hc : t.call event s with
    | mk outcome reached =>
      rw [hc] at h
      cases outcome with
      | ok u => exact ih h
      | error e => cases h

/-- What each of the events keeps of a state, all of them keep, up to the one that is refused. -/
theorem run_keeps {α : Type} (view : σ → α) {events : List Event}
    (h : ∀ event ∈ events, ∀ s, view (t.call event s).2 = view s) (s : σ) :
    view (t.run events s).2 = view s := by
  induction events generalizing s with
  | nil => rfl
  | cons event rest ih =>
    obtain ⟨hf, hr⟩ := List.forall_mem_cons.mp h
    have hc := hf s
    rw [run]
    cases ho : t.call event s with
    | mk outcome next =>
      rw [ho] at hc
      cases outcome with
      | ok u => exact (ih hr next).trans hc
      | error e => exact hc

end Translator
end EntityQuery
