import EntityQuery.Proofs.Lexeme.Spelling

/-! Where the tokens of a text stand. Every token is written at its span, the spans follow one
another, and what is left between them is blank. -/
namespace EntityQuery
open Text Unicode

namespace Text

def Blank (text : Text) : Prop :=
  ∀ c ∈ text, isBlank c = true

theorem blank_nil : Blank [] := by
  simp [Blank]

theorem slice?_append (before text after : Text) :
    (before ++ (text ++ after)).slice? before.byteLength (before.byteLength + text.byteLength) =
      some text := by
  simp [slice?, splitAt?_append]

theorem byteLength_pos {text : Text} (h : text ≠ []) : 0 < text.byteLength := by
  cases text with
  | nil => exact absurd rfl h
  | cons c rest => exact Nat.add_pos_left c.utf8Size_pos _

theorem split_append {a b before after : Text} {c : Char} (h : a ++ b = before ++ c :: after) :
    (∃ more, a = before ++ c :: more) ∨ ∃ more, before = a ++ more ∧ b = more ++ c :: after := by
  obtain ⟨more, hb, ht⟩ | ⟨more, ha, ht⟩ := List.append_eq_append_iff.mp h
  · exact .inr ⟨more, hb, ht⟩
  · cases more with
    | nil => exact .inr ⟨[], by simpa using ha.symm, by simpa using ht.symm⟩
    | cons d more =>
      obtain ⟨rfl, -⟩ := List.cons.inj ht
      exact .inl ⟨more, ha⟩

end Text

namespace Token
open Lexeme

/-- How tokens stand in a text that starts at byte `pos`. -/
inductive Layout : Nat → List Token → Text → Prop where
  | blank {pos : Nat} {gap : Text} (hg : Blank gap) : Layout pos [] gap
  | unclosed {pos : Nat} {gap text : Text} (hg : Blank gap) (hu : Unclosed text) :
    Layout pos
      [⟨.illegal text, pos + gap.byteLength, pos + gap.byteLength + text.byteLength⟩]
      (gap ++ text)
  | next {pos : Nat} {gap text rest : Text} {lexeme : Lexeme} {tokens : List Token}
      (hg : Blank gap) (hw : Written lexeme text)
      (h : Layout (pos + gap.byteLength + text.byteLength) tokens rest) :
    Layout pos
      (⟨lexeme, pos + gap.byteLength, pos + gap.byteLength + text.byteLength⟩ :: tokens)
      (gap ++ (text ++ rest))

theorem Layout.cons_blank {pos : Nat} {tokens : List Token} {c : Char} {text : Text}
    (hc : isBlank c = true) (h : Layout (pos + c.utf8Size) tokens text) :
    Layout pos tokens (c :: text) := by
  cases h with
  | blank hg => exact .blank (List.forall_mem_cons.mpr ⟨hc, hg⟩)
  | unclosed hg hu =>
    have h := @Layout.unclosed pos _ _ (List.forall_mem_cons.mpr ⟨hc, hg⟩) hu
    rwa [byteLength, ← Nat.add_assoc] at h
  | @next _ gap text rest lexeme tokens hg hw h =>
    have ht := @Layout.next pos (c :: gap) text rest lexeme tokens
      (List.forall_mem_cons.mpr ⟨hc, hg⟩) hw
    rw [byteLength, ← Nat.add_assoc] at ht
    exact ht h

theorem ofTextFrom_length (pos : Nat) (text : Text) : ofTextFrom pos text.length text = [] := by
  induction text generalizing pos with
  | nil => rfl
  | cons c rest ih => exact ih (pos + c.utf8Size)

theorem layout_ofTextFrom (text : Text) (pos pending : Nat) :
    Layout (pos + byteLength (text.take pending)) (ofTextFrom pos pending text)
      (text.drop pending) := by
  -- The recursion passes over what belongs to a lexeme, so the hypothesis for the rest of the text
  -- is already about the part after the lexeme.
  induction text generalizing pos pending with
  | nil =>
    rw [ofTextFrom, List.drop_nil]
    exact .blank blank_nil
  | cons c rest ih =>
    cases pending with
    | succ pending =>
      have h := ih (pos + c.utf8Size) pending
      rwa [Nat.add_assoc] at h
    | zero =>
      cases hb : isBlank c with
      | true =>
        rw [ofTextFrom, if_pos hb]
        exact (ih (pos + c.utf8Size) 0).cons_blank hb
      | false =>
        rw [ofTextFrom, hb]
        obtain hw | hu := @next_written c rest hb
        · have h := ih (pos + c.utf8Size) (next c rest).2
          have ht := @Layout.next pos [] _ _ _ _ blank_nil hw
            (by simpa [byteLength, Nat.add_assoc] using h)
          simpa [byteLength, Nat.add_assoc] using ht
        · have h := @Layout.unclosed pos [] _ blank_nil hu
          simpa [byteLength, Nat.add_assoc, hu.next.2, ofTextFrom_length] using h

theorem layout_ofText (text : Text) : Layout 0 (ofText text) text :=
  layout_ofTextFrom text 0 0

section Layout
variable {pos : Nat} {tokens : List Token} {text : Text}

/-- A token is written at its span. Only the last token may lack its end. -/
theorem Layout.written (h : Layout pos tokens text) {token : Token} (hm : token ∈ tokens) :
    ∃ before written after, text = before ++ (written ++ after) ∧
      token.span = ⟨pos + before.byteLength, pos + before.byteLength + written.byteLength⟩ ∧
      (Written token.lexeme written ∨ token.lexeme = .illegal written ∧ Unclosed written ∧
        after = [] ∧ tokens.getLast? = some token) := by
  induction h with
  | blank hg => cases hm
  | @unclosed pos gap text hg hu =>
    obtain rfl := List.mem_singleton.mp hm
    exact ⟨gap, text, [], by simp, rfl, .inr ⟨rfl, hu, rfl, rfl⟩⟩
  | @next pos gap text rest lexeme tokens hg hw h ih =>
    obtain rfl | hm := List.mem_cons.mp hm
    · exact ⟨gap, text, rest, rfl, rfl, .inl hw⟩
    · obtain ⟨before, written, after, rfl, hs, hf⟩ := ih hm
      refine ⟨gap ++ text ++ before, written, after, by simp, ?_, ?_⟩
      · rw [hs]
        simp only [byteLength_append, Nat.add_assoc]
      · refine hf.imp_right fun ⟨hl, hu, ha, he⟩ => ⟨hl, hu, ha, ?_⟩
        rw [List.getLast?_cons, he]
        rfl

theorem Layout.pairwise (h : Layout pos tokens text) :
    tokens.Pairwise fun a b => a.span.stop ≤ b.span.start := by
  induction h with
  | blank hg => exact .nil
  | unclosed hg hu => exact List.pairwise_singleton _ _
  | next hg hw h ih =>
    refine List.pairwise_cons.mpr ⟨fun token hm => ?_, ih⟩
    obtain ⟨before, written, after, -, hs, -⟩ := h.written hm
    rw [hs]
    exact Nat.le_add_right _ _

theorem Layout.covers (h : Layout pos tokens text) {before after : Text} {c : Char}
    (he : text = before ++ c :: after) :
    isBlank c = true ∨ ∃ token ∈ tokens,
      token.span.start ≤ pos + before.byteLength ∧ pos + before.byteLength < token.span.stop := by
  induction h generalizing before with
  | blank hg => exact .inl (hg c (by simp [he]))
  | @unclosed pos gap text hg hu =>
    obtain ⟨more, rfl⟩ | ⟨more, rfl, rfl⟩ := split_append he
    · exact .inl (hg c (by simp))
    · refine .inr ⟨_, List.mem_singleton_self _, ?_⟩
      have hp : 0 < byteLength (c :: after) := byteLength_pos (List.cons_ne_nil c after)
      simp only [byteLength_append]
      omega
  | @next pos gap text rest lexeme tokens hg hw h ih =>
    obtain ⟨more, rfl⟩ | ⟨more, rfl, hr⟩ := split_append he
    · exact .inl (hg c (by simp))
    obtain ⟨tail, rfl⟩ | ⟨more, rfl, rfl⟩ := split_append hr
    · refine .inr ⟨_, List.mem_cons_self, ?_⟩
      have hp : 0 < byteLength (c :: tail) := byteLength_pos (List.cons_ne_nil c tail)
      simp only [byteLength_append]
      omega
    · refine (ih rfl).imp_right fun ⟨token, hm, hs⟩ => ⟨token, List.mem_cons_of_mem _ hm, ?_⟩
      simpa only [byteLength_append, Nat.add_assoc] using hs

end Layout

/-- Lexing loses nothing. The spans of the tokens are not empty, follow one another and start and
end between characters; what is outside of them is blank. A token's text is what stands at its span,
and a token without a text has one of its spellings there. An illegal token is one character that
starts no lexeme, or the last token with all that nothing closes. -/
theorem lexing_is_lossless (text : Text) :
    ((ofText text).Pairwise fun a b => a.span.stop ≤ b.span.start) ∧
    (∀ token ∈ ofText text, token.span.start < token.span.stop ∧
      ∃ written, text.slice? token.span.start token.span.stop = some written ∧
        token.lexeme.Spells written ∧
        (token.lexeme = .illegal written → (∃ c, written = [c] ∧ Stray c) ∨
          Unclosed written ∧ token.span.stop = text.byteLength ∧
            (ofText text).getLast? = some token)) ∧
    ∀ before c after, text = before ++ c :: after → isBlank c = true ∨
      ∃ token ∈ ofText text,
        token.span.start ≤ byteLength before ∧ byteLength before < token.span.stop := by
  have h := layout_ofText text
  refine ⟨h.pairwise, fun token hm => ?_, fun before c after he => ?_⟩
  · obtain ⟨before, written, after, rfl, hs, hf⟩ := h.written hm
    have hn : written ≠ [] := by
      obtain hw | ⟨-, hu, -⟩ := hf
      · exact hw.ne_nil
      · exact hu.ne_nil
    rw [Nat.zero_add] at hs
    rw [hs]
    refine ⟨Nat.lt_add_of_pos_right (byteLength_pos hn), written, slice?_append .., ?_,
      fun hi => ?_⟩
    · obtain hw | ⟨hl, -⟩ := hf
      · exact hw.spells
      · rw [hl]
        exact spells_illegal written
    · obtain hw | ⟨-, hu, rfl, hl⟩ := hf
      · rw [hi] at hw
        exact .inl hw.exists_stray
      · exact .inr ⟨hu, by simp [byteLength_append], hl⟩
  · have hc := h.covers he
    rwa [Nat.zero_add] at hc

end Token
end EntityQuery
