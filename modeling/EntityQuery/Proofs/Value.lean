import EntityQuery.Proofs.Calendar
import EntityQuery.Proofs.Decimal
import EntityQuery.Value

/-! The value of a literal is written as a literal of the same kind, which has the same value. -/
namespace EntityQuery.Value
open Calendar Lexeme Text Timestamp

/-- What writes a value writes a literal of the kind that gives this value. -/
def Written (kind : LiteralKind) (value : Value) : Prop :=
  Spelled kind value.render ∧ ofNode (.literal kind) value.render = value

theorem spelled_isWord {text : Text} {kind : LiteralKind} (hw : isWord text = true)
    (ho : ofWord text = .literal kind text) : Spelled kind text := by
  cases text with
  | nil => cases hw
  | cons c more =>
    simp only [isWord, Bool.and_eq_true, List.all_eq_true] at hw
    exact .word hw.1 hw.2 ho

theorem spelled_bool (b : Bool) : Spelled .boolean (bool b).render := by
  cases b <;> exact spelled_isWord (by decide +kernel) (by decide +kernel)

theorem written_bool (b : Bool) : Written .boolean (bool b) := by
  refine ⟨spelled_bool b, ?_⟩
  cases b <;> decide +kernel

theorem isWhole_ofInt (n : Int) : IsWhole (ofInt n) := by
  cases n with
  | ofNat n => exact Decimal.isWhole_signed false (ofNat_ne_nil n) (digits_ofNat n)
  | negSucc n => exact Decimal.isWhole_signed true (ofNat_ne_nil _) (digits_ofNat _)

theorem written_read {α : Type} {kind : LiteralKind} {read : Text → Option α} {value : α → Value}
    {text : Text}
    (hn : ∀ text, ofNode (.literal kind) text = (read text).elim (unknown text) value)
    (hs : Spelled kind text)
    (hr : ∀ a, read text = some a →
      Spelled kind (value a).render ∧ read (value a).render = some a) :
    Written kind (ofNode (.literal kind) text) := by
  cases h : read text with
  | none =>
    have hv : ofNode (.literal kind) text = unknown text := by rw [hn, h]; rfl
    rw [hv]
    exact ⟨hs, hv⟩
  | some a =>
    obtain ⟨hspelled, hread⟩ := hr a h
    have hv : ofNode (.literal kind) text = value a := by rw [hn, h]; rfl
    rw [hv]
    exact ⟨hspelled, by rw [hn, hread]; rfl⟩

theorem written_integer {text : Text} (h : IsWhole text) :
    Written .integer (ofNode (.literal .integer) text) := by
  refine written_read (fun _ => rfl) (.integer h) fun n hn => ?_
  exact ⟨.integer (isWhole_ofInt n), integer?_ofInt (integer?_bounds hn)⟩

theorem written_decimal {whole ds : Text} (h : IsWhole whole) (hn : ds ≠ []) (hd : Digits ds) :
    Written .decimal (ofNode (.literal .decimal) (whole ++ '.' :: ds)) := by
  refine written_read (fun _ => rfl) (.decimal h hn hd) fun d ho => ?_
  have hs := Decimal.scale_ne_zero h hn hd ho
  exact ⟨Decimal.spelled_render hs, Decimal.ofText?_render hs⟩

theorem written_date {text : Text} (h : IsDate text) :
    Written .date (ofNode (.literal .date) text) := by
  refine written_read (fun _ => rfl) (.date h) fun d ho => ?_
  have hd : d.InDigits := by
    cases text with
    | nil => exact absurd h.length (by decide)
    | cons c rest => exact Date.inDigits_of_ofText? h.head ho
  exact ⟨.date (isDate_render hd), Date.ofText?_render hd⟩

theorem written_moment {text : Text} (h : IsMoment text) :
    Written .dateTime (ofNode (.literal .dateTime) text) := by
  refine written_read (fun _ => rfl) (.dateTime h) fun moment ho => ?_
  have hd : moment.date.InDigits := by
    cases text with
    | nil => exact absurd h.length (by decide)
    | cons c rest => exact DateTime.inDigits_of_ofText? h.head ho
  exact ⟨.dateTime (isMoment_render hd), DateTime.ofText?_render hd⟩

theorem written_string {q : Char} (hq : IsQuote q) {content : Text} (h : Body q content) :
    Written .string (ofNode (.literal .string) (q :: content ++ [q])) := by
  refine ⟨.string (.inl rfl) (body_singleQuoted hq h), ?_⟩
  exact congrArg str (singleQuoted_single _)

theorem written_ofNode {kind : LiteralKind} {text : Text} (h : Spelled kind text) :
    Written kind (ofNode (.literal kind) text) := by
  cases h with
  | word hc hm hw =>
    obtain ⟨-, rfl | rfl⟩ := ofWord_literal hw
    · exact ⟨.word hc hm hw, rfl⟩
    · exact written_bool _
  | integer h => exact written_integer h
  | decimal h hn hd => exact written_decimal h hn hd
  | date h => exact written_date h
  | dateTime h => exact written_moment h
  | string hq h => exact written_string hq h
  | hostExpression h => exact ⟨.hostExpression h, rfl⟩

end EntityQuery.Value
