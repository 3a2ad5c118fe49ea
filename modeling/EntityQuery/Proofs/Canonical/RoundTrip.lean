import EntityQuery.Proofs.Canonical.Conditions
import EntityQuery.Proofs.Query.OfSentence

/-! The canonical text of a query is read as the same query. It is the text of a sentence whose
clauses are printed one after the other, each with a blank before it. -/
namespace EntityQuery.Canonical
open Grammar Lexeme Text Unicode

/-- Whether the printed query is read as a sentence that says it. -/
structure Printable (q : Query) : Prop where
  fields : q.fields = [.named ['*']] ∨
    ∀ field ∈ q.fields, Nameable field.name ∧ field = .named field.name
  source : Nameable q.source
  filter : ∀ e, q.filter = some e → ∀ op field value, (op, field, value) ∈ e.comparisons →
    Comparable op field value
  order : ∀ field ∈ q.order, Nameable field.name ∧ field = .named field.name
  direction : q.order = [] → q.direction = none
  limit : ∀ n, q.limit = some n → n < UInt64.size
  offset : ∀ n, q.offset = some n → n < UInt64.size

/-- Events that are printed as the parts of a sentence. -/
def PrintedAs (events : List Event) (parts : List Part) : Prop :=
  Ends (eventsText events) ∧ ReadsBefore (eventsText events) (parts.flatMap Part.lexemes)

theorem PrintedAs.nil : PrintedAs [] [] :=
  ⟨ends_nil, reads_nil.before⟩

theorem PrintedAs.append {before after : List Event} {ps qs : List Part}
    (hb : PrintedAs before ps) (ha : PrintedAs after qs) :
    PrintedAs (before ++ after) (ps ++ qs) := by
  rw [PrintedAs, eventsText_append, List.flatMap_append]
  exact ⟨hb.1.append ha.1, hb.2.append ha.1 ha.2⟩

theorem PrintedAs.clause {event : Event} {more : List Event} {part : Part} {opening rest : Text}
    {os ls : List Lexeme} (ho : Reads (' ' :: opening) os) (hr : ReadsBefore rest ls)
    (he : eventsText (event :: more) = ' ' :: (opening ++ rest)) (hl : part.lexemes = os ++ ls) :
    PrintedAs (event :: more) [part] := by
  have hall := ho.append_before hr
  refine ⟨by rw [he]; exact ends_space _, ?_⟩
  rw [he, List.flatMap_singleton, hl]
  exact hall

theorem eventsText_singleton (event : Event) : eventsText [event] = eventText event := by
  simp [eventsText]

theorem reads_from : Reads (' ' :: ("FROM".toList ++ [' '])) [.clause .source] :=
  reads_spaced (by decide +kernel) (by decide +kernel)

theorem reads_where : Reads (' ' :: ("WHERE".toList ++ [' '])) [.clause .filter] :=
  reads_spaced (by decide +kernel) (by decide +kernel)

theorem reads_orderBy : Reads (' ' :: ("ORDER".toList ++ ' ' :: ("BY".toList ++ [' '])))
    [.clause .ordering, .byWord] := by
  have ho : ReadsBefore "ORDER".toList [.clause .ordering] :=
    readsBefore_isWord (by decide +kernel) (by decide +kernel)
  have hb : Reads (' ' :: ("BY".toList ++ [' '])) [.byWord] :=
    reads_spaced (by decide +kernel) (by decide +kernel)
  exact reads_space.append (ho.append_reads (by decide) hb)

theorem reads_limit : Reads (' ' :: ("LIMIT".toList ++ [' '])) [.clause .limit] :=
  reads_spaced (by decide +kernel) (by decide +kernel)

theorem reads_offset : Reads (' ' :: ("OFFSET".toList ++ [' '])) [.clause .offset] :=
  reads_spaced (by decide +kernel) (by decide +kernel)

theorem printed_source {source : Text} (h : Nameable source) :
    ∃ name : Name, name.meaning = source ∧ PrintedAs [.source source] [.source name] := by
  obtain ⟨name, hr, hm⟩ := h
  refine ⟨name, hm, .clause reads_from hr ?_ rfl⟩
  rw [eventsText_singleton]
  rfl

theorem printed_filter {filter : Option Expression}
    (h : ∀ e, filter = some e → ∀ op field value, (op, field, value) ∈ e.comparisons →
      Comparable op field value) :
    ∃ w : Option (Phrase .disjunction), w.map Phrase.expression = filter ∧
      PrintedAs (filter.elim [] fun e => .filter :: e.events) (w.map .filter).toList := by
  cases filter with
  | none => exact ⟨none, rfl, .nil⟩
  | some e =>
    obtain ⟨w, rfl, hr⟩ := exists_phrase (h e rfl)
    refine ⟨some (.alternative (.conjunct w)), rfl, .clause reads_where hr ?_ rfl⟩
    rw [eventsText_cons]
    rfl

theorem spelled_ofNat (n : Nat) : Spelled .integer (ofNat n) :=
  .integer (Decimal.isWhole_signed false (ofNat_ne_nil n) (digits_ofNat n))

theorem rowCount?_ofNat {n : Nat} (h : n < UInt64.size) : rowCount? (ofNat n) = some n := by
  rw [rowCount?, trim_of_not_blank (digits_ofNat n).not_blank, count?_ofNat h]

theorem printed_count {event : Nat → Event} {part : Text → Part} {opening : Text} {clause : Clause}
    (ho : Reads (' ' :: opening) [.clause clause])
    (he : ∀ n, eventText (event n) = ' ' :: (opening ++ ofNat n))
    (hp : ∀ text, (part text).lexemes = [.clause clause, .literal .integer text])
    (count : Option Nat) :
    PrintedAs (count.elim [] fun n => [event n]) ((count.map ofNat).map part).toList := by
  cases count with
  | none => exact .nil
  | some n =>
    refine .clause ho (spelled_ofNat n).reads ?_ (hp _)
    rw [eventsText_singleton, he]

theorem printed_limit (limit : Option Nat) :
    PrintedAs (limit.elim [] fun n => [.limit n]) ((limit.map ofNat).map Part.limit).toList :=
  printed_count reads_limit (fun _ => rfl) (fun _ => rfl) limit

theorem printed_offset (offset : Option Nat) :
    PrintedAs (offset.elim [] fun n => [.offset n]) ((offset.map ofNat).map Part.offset).toList :=
  printed_count reads_offset (fun _ => rfl) (fun _ => rfl) offset

theorem rowCount?_printed {count : Option Nat} (h : ∀ n, count = some n → n < UInt64.size) :
    (count.map ofNat).bind rowCount? = count := by
  cases count with
  | none => rfl
  | some n => exact rowCount?_ofNat (h n rfl)

theorem rowCount?_isSome {count : Option Nat} (h : ∀ n, count = some n → n < UInt64.size)
    {text : Text} (ht : count.map ofNat = some text) : (rowCount? text).isSome := by
  obtain ⟨n, hn, rfl⟩ := Option.map_eq_some_iff.mp ht
  rw [rowCount?_ofNat (h n hn)]
  rfl

theorem reads_direction (direction : Direction) :
    ReadsBefore (' ' :: direction.keyword.toList) [.direction direction] := by
  have hd : ReadsBefore direction.keyword.toList [.direction direction] := by
    cases direction <;> exact readsBefore_isWord (by decide +kernel) (by decide +kernel)
  exact reads_space.append_before hd

theorem printed_order {order : List Field} {direction : Option Direction}
    (h : ∀ field ∈ order, Nameable field.name ∧ field = .named field.name)
    (hd : order = [] → direction = none) :
    ∃ ordering : Option Grammar.Ordering, (ordering.elim [] fun o => o.names.fields) = order ∧
      ordering.bind Grammar.Ordering.direction = direction ∧
      PrintedAs (if order.isEmpty then [] else [.order order direction])
        (ordering.map .ordering).toList := by
  by_cases he : order = []
  · subst he
    exact ⟨none, rfl, (hd rfl).symm, .nil⟩
  · obtain ⟨names, hf, hr⟩ := exists_names he h
    refine ⟨some ⟨names, direction⟩, hf, rfl, ?_⟩
    have hw : ReadsBefore (namesText order ++
        direction.elim [] fun direction => ' ' :: direction.keyword.toList)
        (Grammar.Ordering.mk names direction).lexemes := by
      cases direction with
      | none => simpa [Grammar.Ordering.lexemes] using hr
      | some direction => exact hr.append (ends_space _) (reads_direction direction)
    rw [if_neg (by simpa using he)]
    refine .clause reads_orderBy hw ?_ rfl
    rw [eventsText_singleton]
    exact List.append_assoc _ _ _

theorem printed_projection {fields : List Field} (hn : fields ≠ [])
    (h : fields = [.named ['*']] ∨ ∀ field ∈ fields, Nameable field.name ∧
      field = .named field.name) :
    ∃ projection : Projection, projection.fields = fields ∧
      ReadsBefore (eventText (.fields fields)) (.select :: projection.lexemes) := by
  have hs : Reads ("SELECT".toList ++ [' ']) [.select] :=
    reads_word (by decide +kernel) (by decide +kernel)
  have he : eventText (.fields fields) = "SELECT".toList ++ [' '] ++ namesText fields := rfl
  rw [he]
  rcases h with rfl | h
  · exact ⟨.all, rfl, hs.append_before reads_star.before⟩
  · obtain ⟨names, hf, hr⟩ := exists_names hn h
    exact ⟨.names names, hf, hs.append_before hr⟩

/-- What is printed is the text of a sentence whose draft is the query. -/
theorem Printable.exists_sentence {q : Query} (h : Printable q) :
    ∃ s : Sentence, ofText (eventsText q.events) = s.lexemes ∧ s.Countable ∧
      s.draft.build = .ok q := by
  obtain ⟨projection, hfields, hp⟩ := printed_projection q.fields_ne_nil h.fields
  obtain ⟨name, hsource, hs⟩ := printed_source h.source
  obtain ⟨filter, hfilter, hf⟩ := printed_filter h.filter
  obtain ⟨ordering, horder, hdirection, ho⟩ := printed_order h.order h.direction
  have hlimit := rowCount?_printed h.limit
  have hoffset := rowCount?_printed h.offset
  let s : Sentence := ⟨projection, some name, filter, ordering, q.limit.map ofNat,
    q.offset.map ofNat⟩
  have hc : s.Countable := by
    rintro text (ht | ht)
    · exact rowCount?_isSome h.limit ht
    · exact rowCount?_isSome h.offset ht
  refine ⟨s, ?_, hc, ?_⟩
  · have hall := (((hs.append hf).append ho).append (printed_limit q.limit)).append
      (printed_offset q.offset)
    have hread := (hp.append hall.1 hall.2).ofText
    rw [← eventsText_cons] at hread
    exact hread
  · have hd : s.draft = ⟨q.fields, some q.source, q.filter, q.order, q.direction, q.limit,
        q.offset⟩ := by
      rw [Sentence.draft, hfields, Option.map_some, hsource, hfilter, hlimit, hoffset]
      congr
    rw [hd, Draft.build, dif_neg q.fields_ne_nil]

theorem Printable.ofText_canonical {q : Query} (h : Printable q) :
    Query.ofText (eventsText q.events) = .ok q := by
  obtain ⟨s, hl, hc, hb⟩ := h.exists_sentence
  exact Query.ofTokens_draft hl.symm hc hb

/-- Every name of the query is one that is read again, or the projection is the star alone. -/
def Named (q : Query) : Prop :=
  (q.fields = [.named ['*']] ∨ ∀ field ∈ q.fields, IsName field.name) ∧ IsName q.source ∧
    (∀ field ∈ q.order, IsName field.name) ∧
    ∀ e, q.filter = some e → ∀ op field value, (op, field, value) ∈ e.comparisons →
      IsName field.name

theorem value_mem {b : Binding} {w : Phrase b} {c : Grammar.Comparison}
    (h : c ∈ w.comparisons) : c.value.lexeme ∈ w.lexemes := by
  induction w with
  | comparison d =>
    obtain rfl : c = d := by simpa [Phrase.comparisons] using h
    simp [Phrase.lexemes, Comparison.lexemes]
  | group inner ih => simp [Phrase.lexemes, ih h]
  | not operand ih => simp [Phrase.lexemes, ih h]
  | conjunct operand ih => exact ih h
  | and left right ihl ihr =>
    rcases List.mem_append.mp h with h | h
    · simp [Phrase.lexemes, ihl h]
    · simp [Phrase.lexemes, ihr h]
  | alternative conjunction ih => exact ih h
  | or left right ihl ihr =>
    rcases List.mem_append.mp h with h | h
    · simp [Phrase.lexemes, ihl h]
    · simp [Phrase.lexemes, ihr h]

theorem filter_mem {s : Sentence} {w : Phrase .disjunction} (h : s.filter = some w)
    {lexeme : Lexeme} (hm : lexeme ∈ w.lexemes) : lexeme ∈ s.lexemes := by
  have hp : Part.filter w ∈ s.parts := by simp [Sentence.parts, h]
  have hl : lexeme ∈ (Part.filter w).lexemes := List.mem_cons_of_mem _ hm
  exact List.mem_append_right _ (List.mem_flatMap.mpr ⟨_, hp, hl⟩)

theorem readable_value {text : Text} {l : Literal} (h : l.lexeme ∈ ofText text) :
    Readable l.value := by
  cases l with
  | null => exact readable_null
  | of kind inner => exact readable_literal (spelled_of_mem h)

theorem fields_named (names : Names) : ∀ field ∈ names.fields, field = .named field.name := by
  intro field h
  obtain ⟨name, -, rfl⟩ := List.mem_map.mp h
  rfl

theorem rowCount?_lt {written : Option Text} {n : Nat} (h : written.bind rowCount? = some n) :
    n < UInt64.size := by
  obtain ⟨text, -, ht⟩ := Option.bind_eq_some_iff.mp h
  exact count?_lt ht

theorem comparable_of_ofText {text : Text} {s : Sentence} (hl : s.lexemes = ofText text)
    {w : Phrase .disjunction} (hw : s.filter = some w) {op : Operator} {field : Field}
    {value : Value} (hm : (op, field, value) ∈ w.expression.comparisons) (hn : IsName field.name) :
    Comparable op field value := by
  rw [w.comparisons_expression] at hm
  obtain ⟨c, hc, hcm⟩ := List.mem_map.mp hm
  obtain ⟨rfl, hcf⟩ := Prod.mk.inj hcm
  obtain ⟨rfl, rfl⟩ := Prod.mk.inj hcf
  have hv := filter_mem hw (value_mem hc)
  rw [hl] at hv
  exact comparable hn.nameable rfl (readable_value hv)

theorem order_named (s : Sentence) : ∀ field ∈ s.order, field = .named field.name := by
  intro field hm
  cases ho : s.ordering with
  | none => simp [Sentence.order, ho] at hm
  | some ordering =>
    simp only [Sentence.order, ho] at hm
    exact fields_named ordering.names field hm

theorem direction_of_order_nil {s : Sentence} (h : s.order = []) : s.direction = none := by
  cases ho : s.ordering with
  | none => simp [Sentence.direction, ho]
  | some ordering => simp [Sentence.order, ho, Names.fields] at h

/-- A query that was read from a text is printable if its names are. -/
theorem printable_of_ofText {text : Text} {q : Query} (h : Query.ofText text = .ok q)
    (hn : Named q) : Printable q := by
  obtain ⟨s, hl, -, hb⟩ := Query.exists_sentence h
  obtain ⟨name, hs, rfl⟩ := Sentence.exists_source hb
  obtain ⟨hfields, hsource, horder, hfilter⟩ := hn
  refine ⟨?_, hsource.nameable, ?_, ?_, ?_, ?_, ?_⟩
  · refine hfields.imp_right fun hall field hm => ⟨(hall field hm).nameable, ?_⟩
    cases hp : s.projection with
    | all =>
      simp only [hp, Projection.fields, List.mem_singleton] at hm
      rw [hm]
      rfl
    | names list =>
      simp only [hp, Projection.fields] at hm
      exact fields_named list field hm
  · intro e he op field value hm
    obtain ⟨w, hw, rfl⟩ := Option.map_eq_some_iff.mp he
    exact comparable_of_ofText hl hw hm (hfilter _ he op field value hm)
  · exact fun field hm => ⟨(horder field hm).nameable, order_named s field hm⟩
  · exact direction_of_order_nil
  · exact fun n hlimit => rowCount?_lt hlimit
  · exact fun n hoffset => rowCount?_lt hoffset

/-- The canonical text of a query that was read from a text is read as the same query, which has
the same canonical text. -/
theorem canonical_round_trip (text : Text) (q : Query) (h : Query.ofText text = .ok q)
    (hn : Named q) :
    ∃ printed again, q.canonical = .ok printed ∧ Query.ofText printed = .ok again ∧
      again = q ∧ again.canonical = .ok printed :=
  ⟨_, q, canonical_eq q, (printable_of_ofText h hn).ofText_canonical, rfl, canonical_eq q⟩

theorem canonical_round_trip_nested :
    ∃ q printed, Query.ofText
      "select \"full name\" from users where not a = 1 or b <> 'it''s' and c > 2.50".toList =
        .ok q ∧
      printed =
        "SELECT 'full name' FROM users WHERE (NOT (a = 1) OR (b <> 'it''s' AND c > 2.50))".toList ∧
      q.canonical = .ok printed ∧ Query.ofText printed = .ok q := by
  let q : Query := ⟨[.named "full name".toList], by simp, "users".toList,
    some (.or (.not (.comparison .eq (.named ['a']) (.int 1)))
      (.and (.comparison .neq (.named ['b']) (.str "it''s".toList))
        (.comparison .gt (.named ['c']) (.num ⟨250, 2, by decide, by decide⟩)))),
    [], none, none, none⟩
  have hq : Query.ofText
      "select \"full name\" from users where not a = 1 or b <> 'it''s' and c > 2.50".toList =
        .ok q := by
    decide +kernel
  have hn : Named q := by
    refine ⟨.inr ?_, .inl ⟨"users".toList, by decide +kernel⟩, by simp [q], ?_⟩
    · intro field hm
      obtain rfl := List.mem_singleton.mp hm
      exact .inr ⟨by decide +kernel, by decide⟩
    · intro e he op field value hm
      obtain rfl := Option.some.inj he
      simp only [Expression.comparisons, List.mem_append, List.mem_singleton, Prod.mk.injEq] at hm
      rcases hm with ⟨-, rfl, -⟩ | ⟨-, rfl, -⟩ | ⟨-, rfl, -⟩
      · exact .inl ⟨['a'], by decide +kernel⟩
      · exact .inl ⟨['b'], by decide +kernel⟩
      · exact .inl ⟨['c'], by decide +kernel⟩
  obtain ⟨printed, again, hp, ha, rfl, -⟩ := canonical_round_trip _ q hq hn
  refine ⟨_, printed, hq, ?_, hp, ha⟩
  have hc : q.canonical = .ok (String.toList
      "SELECT 'full name' FROM users WHERE (NOT (a = 1) OR (b <> 'it''s' AND c > 2.50))") := by
    decide +kernel
  exact Except.ok.inj (hp.symm.trans hc)

end EntityQuery.Canonical
