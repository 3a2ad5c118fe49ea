import EntityQuery.Proofs.Canonical.Names
import EntityQuery.Proofs.Emission
import EntityQuery.Proofs.Value

/-! Conditions as they are printed. Each connective is printed in brackets of its own, so that what
is printed is read as one operand, whose meaning is the condition. -/
namespace EntityQuery.Canonical
open Grammar Lexeme Text Unicode

def eventsText (events : List Event) : Text :=
  events.flatMap eventText

theorem run_translator (events : List Event) (before : Text) :
    translator.run events before = (.ok (), before ++ eventsText events) := by
  induction events generalizing before with
  | nil => simp [Translator.run, eventsText]
  | cons event rest ih =>
    have hc : translator.call event before = (.ok (), before ++ eventText event) := rfl
    rw [translator.run_cons_ok hc, ih]
    simp [eventsText]

theorem canonical_eq (q : Query) : q.canonical = .ok (eventsText q.events) := by
  rw [Query.canonical, Translator.translate, run_translator]
  rfl

theorem reads_word {text : Text} {lexeme : Lexeme} (hw : isWord text = true)
    (ho : ofWord text = lexeme) : Reads (text ++ [' ']) [lexeme] :=
  (readsBefore_isWord hw ho).append_reads rfl reads_space

theorem reads_spaced {text : Text} {lexeme : Lexeme} (hw : isWord text = true)
    (ho : ofWord text = lexeme) : Reads (' ' :: (text ++ [' '])) [lexeme] :=
  reads_space.append (reads_word hw ho)

theorem reads_and : Reads (eventText .and) [.and] := by
  have he : eventText .and = ' ' :: ("AND".toList ++ [' ']) := rfl
  rw [he]
  exact reads_spaced (by decide +kernel) (by decide +kernel)

theorem reads_or : Reads (eventText .or) [.or] := by
  have he : eventText .or = ' ' :: ("OR".toList ++ [' ']) := rfl
  rw [he]
  exact reads_spaced (by decide +kernel) (by decide +kernel)

theorem reads_not : Reads (eventText .not) [.not] := by
  have he : eventText .not = "NOT".toList ++ [' '] := rfl
  rw [he]
  exact reads_word (by decide +kernel) (by decide +kernel)

theorem reads_operator (op : Operator) : Reads (op.symbol.toList ++ [' ']) [.comparator op] := by
  have hs {text : Text} {lexeme : Lexeme}
      (h : ∀ tail, ofText (text ++ ' ' :: tail) = lexeme :: ofText (' ' :: tail)) :
      Reads (text ++ [' ']) [lexeme] := by
    intro tail
    rw [List.append_assoc, List.singleton_append, h, ofText_blank rfl]
    rfl
  cases op with
  | like => exact reads_word (by decide +kernel) (by decide +kernel)
  | _ => exact hs fun tail => ofText_next rfl _

/-- Whether the printed value is read as a literal that has it. -/
def Readable (value : Value) : Prop :=
  ∃ literal : Literal, ReadsBefore value.render [literal.lexeme] ∧ literal.value = value

theorem readable_null : Readable .null :=
  ⟨.null, readsBefore_isWord (by decide +kernel) (by decide +kernel), rfl⟩

theorem readable_literal {kind : LiteralKind} {text : Text} (h : Spelled kind text) :
    Readable (.ofNode (.literal kind) text) := by
  obtain ⟨hs, hv⟩ := Value.written_ofNode h
  exact ⟨.of kind (Value.ofNode (.literal kind) text).render, hs.reads, hv⟩

def Comparable (op : Operator) (field : Field) (value : Value) : Prop :=
  ∃ c : Comparison, c.meaning = (op, field, value) ∧
    ReadsBefore (eventText (.comparison op field value)) c.lexemes

theorem eventText_comparison (op : Operator) (field : Field) (value : Value) :
    eventText (.comparison op field value) =
      nameText field.name ++ ' ' :: (op.symbol.toList ++ ' ' :: value.render) := by
  have h : eventText (.comparison op field value) =
      nameText field.name ++ ' ' :: op.symbol.toList ++ ' ' :: value.render := rfl
  rw [h, List.append_assoc, List.cons_append]

theorem comparable {op : Operator} {field : Field} {value : Value} (hn : Nameable field.name)
    (hf : field = .named field.name) (hv : Readable value) : Comparable op field value := by
  obtain ⟨name, hr, hm⟩ := hn
  obtain ⟨literal, hl, hvalue⟩ := hv
  refine ⟨⟨name, op, literal⟩, ?_, ?_⟩
  · rw [Comparison.meaning, Name.field, hm, ← hf, hvalue]
  · have ho : ReadsBefore (' ' :: (op.symbol.toList ++ ' ' :: value.render))
        [.comparator op, literal.lexeme] := by
      simpa using (reads_space.append (reads_operator op)).append_before hl
    rw [eventText_comparison]
    exact hr.append (ends_space _) ho

theorem eventsText_cons (event : Event) (rest : List Event) :
    eventsText (event :: rest) = eventText event ++ eventsText rest := rfl

theorem eventsText_append (before after : List Event) :
    eventsText (before ++ after) = eventsText before ++ eventsText after := by
  simp [eventsText]

theorem eventText_and : ∃ rest, eventText .and = ' ' :: rest := ⟨_, rfl⟩

theorem eventText_or : ∃ rest, eventText .or = ' ' :: rest := ⟨_, rfl⟩

theorem reads_group {events : List Event} {lexemes : List Lexeme}
    (h : ReadsBefore (eventsText events) lexemes) :
    ReadsBefore (eventsText (.beginGroup :: events ++ [.endGroup]))
      (.openParen :: lexemes ++ [.closeParen]) := by
  have hg := (reads_openParen.append (h.append_reads rfl reads_closeParen)).before
  have ho : eventText .beginGroup = ['('] := rfl
  have hc : eventsText [.endGroup] = [')'] := rfl
  rw [eventsText_append, eventsText_cons, ho, hc, List.append_assoc]
  exact hg

theorem reads_connected {left right : List Event} {ls rs : List Lexeme} {event : Event}
    {lexeme : Lexeme} (hl : ReadsBefore (eventsText left) ls)
    (hr : ReadsBefore (eventsText right) rs) (he : ∃ rest, eventText event = ' ' :: rest)
    (h : Reads (eventText event) [lexeme]) :
    ReadsBefore (eventsText (left ++ event :: right)) (ls ++ lexeme :: rs) := by
  obtain ⟨rest, he⟩ := he
  rw [eventsText_append, eventsText_cons, ← List.append_assoc, List.append_cons]
  rw [he] at h ⊢
  exact (hl.append_reads rfl h).append_before hr

/-- A printed condition is read as one operand, whose expression it is. -/
theorem exists_phrase {e : Expression}
    (h : ∀ op field value, (op, field, value) ∈ e.comparisons → Comparable op field value) :
    ∃ w : Phrase .operand, w.expression = e ∧ ReadsBefore (eventsText e.events) w.lexemes := by
  induction e with
  | comparison op field value =>
    obtain ⟨c, hm, hr⟩ := h op field value (by simp [Expression.comparisons])
    refine ⟨.comparison c, ?_, by simpa [eventsText, Expression.events, Phrase.lexemes] using hr⟩
    rw [Comparison.meaning, Prod.mk.injEq, Prod.mk.injEq] at hm
    rw [Phrase.expression, hm.1, hm.2.1, hm.2.2]
  | and left right ihl ihr =>
    obtain ⟨l, hl, hlr⟩ := ihl fun op field value hm =>
      h op field value (List.mem_append_left _ hm)
    obtain ⟨r, hr, hrr⟩ := ihr fun op field value hm =>
      h op field value (List.mem_append_right _ hm)
    refine ⟨.group (.alternative (.and (.conjunct l) r)), ?_, ?_⟩
    · rw [← hl, ← hr]
      rfl
    · have hg := reads_group (reads_connected hlr hrr eventText_and reads_and)
      rw [← List.cons_append] at hg
      exact hg
  | or left right ihl ihr =>
    obtain ⟨l, hl, hlr⟩ := ihl fun op field value hm =>
      h op field value (List.mem_append_left _ hm)
    obtain ⟨r, hr, hrr⟩ := ihr fun op field value hm =>
      h op field value (List.mem_append_right _ hm)
    refine ⟨.group (.or (.alternative (.conjunct l)) (.conjunct r)), ?_, ?_⟩
    · rw [← hl, ← hr]
      rfl
    · have hg := reads_group (reads_connected hlr hrr eventText_or reads_or)
      rw [← List.cons_append] at hg
      exact hg
  | not operand ih =>
    obtain ⟨w, hw, hr⟩ := ih h
    obtain ⟨op, field, value, rfl⟩ | he := operand.events_not
    · refine ⟨.not (.group (.alternative (.conjunct w))), by rw [← hw]; rfl, ?_⟩
      exact reads_not.append_before (reads_group hr)
    · refine ⟨.not w, by rw [← hw]; rfl, ?_⟩
      rw [he]
      exact reads_not.append_before hr

end EntityQuery.Canonical
