import EntityQuery.Proofs.Canonical.Conditions
import EntityQuery.Sql.Assembly

/-! Which queries have no SQL statement. A comparison is refused for its operator and its value
alone, whatever has been assembled so far and for whichever dialect; so a query is refused for the
first such comparison of its filter, and with the same error everywhere. -/
namespace EntityQuery

def Operator.ordering : List Operator :=
  [.gt, .lt, .gte, .lte]

def Event.comparison? : Event → Option (Operator × Field × Value)
  | comparison op field value => some (op, field, value)
  | _ => none

def Query.comparisons (query : Query) : List (Operator × Field × Value) :=
  query.filter.elim [] Expression.comparisons

theorem Expression.comparisons_events (e : Expression) :
    e.events.filterMap Event.comparison? = e.comparisons := by
  induction e with
  | comparison op field value => rfl
  | and left right ihl ihr =>
    simp [events, comparisons, List.filterMap_cons, Event.comparison?, ihl, ihr]
  | or left right ihl ihr =>
    simp [events, comparisons, List.filterMap_cons, Event.comparison?, ihl, ihr]
  | not operand ih =>
    obtain ⟨op, field, value, rfl⟩ | he := operand.events_not
    · rfl
    · rw [he]
      exact ih

theorem Query.comparisons_events (query : Query) :
    query.events.filterMap Event.comparison? = query.comparisons := by
  rw [List.filterMap_eq_flatMap_toList,
    flatMap_events _ (fun _ _ => rfl) (fun _ => rfl) fun _ => rfl, comparisons]
  cases query.filter with
  | none => rfl
  | some filter =>
    have hf := filter.comparisons_events
    rw [List.filterMap_eq_flatMap_toList] at hf
    exact hf

namespace Sql

/-- The comparisons that no statement can make, and what is said of them: a pattern that is no
string, an order with null, and an unknown value. -/
inductive Refused : Operator → Value → TranslateError → Prop where
  | pattern {value : Value} (h : ∀ content, value ≠ .str content) :
    Refused .like value (.operator .like value.render)
  | order {op : Operator} (h : op ∈ Operator.ordering) :
    Refused op .null (.operator op Value.null.render)
  | unknown {op : Operator} (h : op ≠ .like) (text : Text) :
    Refused op (.unknown text) (.value (Value.unknown text).render)

theorem refused_of_error {op : Operator} {column : Text} {value : Value} {e : TranslateError}
    (h : Condition.ofComparison op column value = .error e) : Refused op value e := by
  unfold Condition.ofComparison at h
  split at h
  · cases h
  · cases h
  · rename_i heq hneq
    obtain rfl := Except.error.inj h
    cases op with
    | eq => exact absurd rfl heq
    | neq => exact absurd rfl hneq
    | like => exact .pattern (by simp)
    | _ => exact .order (by simp [Operator.ordering])
  · cases h
  · rename_i hstr
    obtain rfl := Except.error.inj h
    exact .pattern fun content hv => hstr content hv
  · rename_i hlike hnull _ _ _
    split at h
    · cases h
    · rename_i hnone
      obtain rfl := Except.error.inj h
      cases value with
      | unknown text => exact .unknown hlike text
      | null => exact absurd rfl hnull
      | _ => simp [Operand.ofValue?] at hnone

theorem error_of_refused {op : Operator} {value : Value} {e : TranslateError}
    (h : Refused op value e) (column : Text) :
    Condition.ofComparison op column value = .error e := by
  cases h with
  | pattern h =>
    cases value with
    | str content => exact absurd rfl (h content)
    | _ => rfl
  | order h =>
    simp only [Operator.ordering, List.mem_cons, List.not_mem_nil, or_false] at h
    rcases h with rfl | rfl | rfl | rfl <;> rfl
  | unknown h text =>
    cases op with
    | like => exact absurd rfl h
    | _ => rfl

def FirstRefused (comparisons : List (Operator × Field × Value)) (e : TranslateError) : Prop :=
  ∃ before op field value after, comparisons = before ++ (op, field, value) :: after ∧
    (∀ c ∈ before, ∀ e, ¬Refused c.1 c.2.2 e) ∧ Refused op value e

theorem not_firstRefused_nil (e : TranslateError) : ¬FirstRefused [] e := by
  rintro ⟨before, op, field, value, after, h, -⟩
  simp at h

theorem firstRefused_cons_refused {op : Operator} {field : Field} {value : Value}
    {first : TranslateError} (h : Refused op value first)
    (rest : List (Operator × Field × Value)) (e : TranslateError) :
    FirstRefused ((op, field, value) :: rest) e ↔ first = e := by
  constructor
  · rintro ⟨before, op', field', value', after, hs, hb, hr⟩
    cases before with
    | nil =>
      obtain ⟨hc, -⟩ := List.cons.inj hs
      obtain ⟨rfl, -, rfl⟩ : op = op' ∧ field = field' ∧ value = value' := by simpa using hc
      have he := error_of_refused h []
      rw [error_of_refused hr []] at he
      exact (Except.error.inj he).symm
    | cons c more =>
      obtain ⟨rfl, -⟩ := List.cons.inj hs
      exact absurd h (hb _ (List.mem_cons_self ..) first)
  · rintro rfl
    exact ⟨[], op, field, value, rest, rfl, by simp, h⟩

theorem firstRefused_cons_accepted {op : Operator} {field : Field} {value : Value}
    (h : ∀ e, ¬Refused op value e) (rest : List (Operator × Field × Value)) (e : TranslateError) :
    FirstRefused ((op, field, value) :: rest) e ↔ FirstRefused rest e := by
  constructor
  · rintro ⟨before, op', field', value', after, hs, hb, hr⟩
    cases before with
    | nil =>
      obtain ⟨hc, -⟩ := List.cons.inj hs
      obtain ⟨rfl, -, rfl⟩ : op = op' ∧ field = field' ∧ value = value' := by simpa using hc
      exact absurd hr (h e)
    | cons c more =>
      obtain ⟨-, ht⟩ := List.cons.inj hs
      exact ⟨more, op', field', value', after, ht, fun d hd => hb d (List.mem_cons_of_mem _ hd), hr⟩
  · rintro ⟨before, op', field', value', after, rfl, hb, hr⟩
    refine ⟨(op, field, value) :: before, op', field', value', after, rfl, ?_, hr⟩
    exact List.forall_mem_cons.mpr ⟨h, hb⟩

theorem exists_firstRefused {comparisons : List (Operator × Field × Value)} :
    (∃ e, FirstRefused comparisons e) ↔
      ∃ op field value e, (op, field, value) ∈ comparisons ∧ Refused op value e := by
  constructor
  · rintro ⟨e, before, op, field, value, after, rfl, -, hr⟩
    exact ⟨op, field, value, e, by simp, hr⟩
  · rintro ⟨op, field, value, e, hm, hr⟩
    induction comparisons with
    | nil => cases hm
    | cons c rest ih =>
      obtain ⟨op', field', value'⟩ := c
      by_cases hc : ∃ first, Refused op' value' first
      · obtain ⟨first, hc⟩ := hc
        exact ⟨first, (firstRefused_cons_refused hc rest first).mpr rfl⟩
      · have hn : ∀ e, ¬Refused op' value' e := fun e h => hc ⟨e, h⟩
        rcases List.mem_cons.mp hm with he | hm
        · obtain ⟨rfl, -, rfl⟩ : op = op' ∧ field = field' ∧ value = value' := by simpa using he
          exact absurd hr (hn e)
        · obtain ⟨first, hf⟩ := ih hm
          exact ⟨first, (firstRefused_cons_accepted hn rest first).mpr hf⟩

theorem call_ok {event : Event} (h : event.comparison? = none) (assembly : Assembly) :
    ∃ next, translator.call event assembly = (.ok (), next) := by
  cases event with
  | comparison op field value => cases h
  | _ => exact ⟨_, rfl⟩

/-- Events are refused for the first comparison among them that is refused, from every state. -/
theorem run_error_iff (events : List Event) (assembly : Assembly) (e : TranslateError) :
    (translator.run events assembly).1 = .error e ↔
      FirstRefused (events.filterMap Event.comparison?) e := by
  induction events generalizing assembly with
  | nil => simp [Translator.run, not_firstRefused_nil]
  | cons event rest ih =>
    cases hc : event.comparison? with
    | none =>
      obtain ⟨next, hn⟩ := call_ok hc assembly
      rw [translator.run_cons_ok hn, List.filterMap_cons_none hc]
      exact ih next
    | some c =>
      obtain ⟨op, field, value⟩ := c
      obtain rfl : event = .comparison op field value := by
        cases event with
        | comparison op' field' value' => simpa [Event.comparison?] using hc
        | _ => cases hc
      rw [List.filterMap_cons_some hc]
      cases ho : Condition.ofComparison op field.name value with
      | ok condition =>
        have hcall : translator.call (.comparison op field value) assembly =
            (.ok (), assembly.push condition) := by
          simp [translator, Assembly.call, ho]
        have ha (e : TranslateError) : ¬Refused op value e := by
          intro hr
          rw [error_of_refused hr] at ho
          cases ho
        rw [translator.run_cons_ok hcall, firstRefused_cons_accepted ha]
        exact ih _
      | error first =>
        have hrun : (translator.run (.comparison op field value :: rest) assembly).1 =
            .error first := by
          simp [Translator.run, translator, Assembly.call, ho]
        rw [hrun, firstRefused_cons_refused (refused_of_error ho), Except.error.injEq]

theorem translate_error_iff (query : Query) (assembly : Assembly) (e : TranslateError) :
    (translator.translate query assembly).1 = .error e ↔ FirstRefused query.comparisons e := by
  rw [← query.comparisons_events, ← run_error_iff query.events assembly]
  simp only [Translator.translate]
  cases (translator.run query.events assembly).1 <;> simp [Except.map]

/-- A query has no SQL statement exactly if its filter has a comparison, however deep, of a pattern
that is no string, of an order with null or with an unknown value, and the error is that of the
first one from the left. This is so in whatever state the assembly is, so for all dialects and all
tables alike. The canonical text is never refused. -/
theorem fails_exactly_on_refused (query : Query) :
    (∀ a : Assembly, (∃ e, (translator.translate query a).1 = .error e) ↔
      ∃ op field value e, (op, field, value) ∈ query.comparisons ∧ Refused op value e) ∧
    (∀ (a : Assembly) (e : TranslateError),
      (translator.translate query a).1 = .error e ↔ FirstRefused query.comparisons e) ∧
    (∀ (a b : Assembly) (e : TranslateError),
      (translator.translate query a).1 = .error e ↔ (translator.translate query b).1 = .error e) ∧
    ∀ text, ∃ canonical, (Canonical.translator.translate query text).1 = .ok canonical := by
  refine ⟨fun a => ?_, translate_error_iff query, fun a b e => ?_, fun text => ?_⟩
  · simp only [translate_error_iff, exists_firstRefused]
  · rw [translate_error_iff, translate_error_iff]
  · refine ⟨text ++ Canonical.eventsText query.events, ?_⟩
    rw [Translator.translate, Canonical.run_translator]
    rfl

end Sql
end EntityQuery
