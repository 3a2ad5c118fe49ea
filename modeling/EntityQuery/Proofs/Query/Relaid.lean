import EntityQuery.Proofs.Lexeme.Layout
import EntityQuery.Proofs.Query.Places
import EntityQuery.Proofs.Tree.Places

/-! Layout and the case of keywords make no difference. The tokens of a text may be written again
with other blanks between them, and those without a text of their own in other letter case. What is
read is the same, but for the places in it. -/
namespace EntityQuery
open Text Unicode

namespace Lexeme
variable {lexeme : Lexeme} {text word : Text}

theorem signs_no_letter (h : text ∈ lexeme.signs) : ∀ c ∈ text, c.toNat < 0x41 := by
  have hs : ∀ text ∈ lexeme.signs, text.all (·.toNat < 0x41) = true := by
    cases lexeme with
    | comparator op => cases op <;> decide
    | star | comma | openParen | closeParen => decide
    | _ => exact fun text h => nomatch h
  simpa using hs text h

theorem Written.recased (h : Written lexeme text) (hn : lexeme.text? = none)
    (hs : sameWord text word = true) : Written lexeme word := by
  cases h with
  | keyword h ht => exact .keyword h (sameWord_trans ht hs)
  | sign h =>
    rw [eq_of_sameWord hs (signs_no_letter h)]
    exact .sign h
  | literal h => cases hn
  | stray h => cases hn

theorem reads_gap {gap : Text} (h : Blank gap) : Reads gap [] := by
  induction gap with
  | nil => exact reads_nil
  | cons c rest ih =>
    obtain ⟨hc, hr⟩ := List.forall_mem_cons.mp h
    exact (reads_blank hc).append (ih hr)

theorem ends_gap {gap : Text} (h : Blank gap) (hn : gap ≠ []) (rest : Text) :
    Ends (gap ++ rest) := by
  cases gap with
  | nil => exact absurd rfl hn
  | cons c more =>
    rw [List.cons_append, ends_cons, separates, h c List.mem_cons_self]
    rfl

end Lexeme

namespace Token
open Lexeme

/-- A text that may stand for a token of the source: what stands at its span, or that in other
letter case if the token has no text of its own. -/
def Recased (source : Text) (token : Token) (word : Text) : Prop :=
  ∃ written, source.slice? token.span.start token.span.stop = some written ∧
    (word = written ∨ token.lexeme.text? = none ∧ sameWord written word = true)

inductive Relaid (source : Text) : List Token → Text → Prop where
  | nil : Relaid source [] []
  | last {token : Token} {word : Text} (hw : Recased source token word) :
    Relaid source [token] word
  | cons {token next : Token} {tokens : List Token} {word gap rest : Text}
      (hw : Recased source token word) (hn : gap ≠ []) (hg : Blank gap)
      (h : Relaid source (next :: tokens) rest) :
    Relaid source (token :: next :: tokens) (word ++ (gap ++ rest))

theorem recased_iff {before gap text after word : Text} {lexeme : Lexeme} :
    Recased (before ++ (gap ++ (text ++ after)))
      ⟨lexeme, before.byteLength + gap.byteLength,
        before.byteLength + gap.byteLength + text.byteLength⟩ word ↔
      word = text ∨ lexeme.text? = none ∧ sameWord text word = true := by
  have hs := slice?_append (before ++ gap) text after
  rw [byteLength_append, List.append_assoc] at hs
  simp [Recased, hs]

theorem written_of_recased {text word : Text} {lexeme : Lexeme} (hw : Written lexeme text)
    (h : word = text ∨ lexeme.text? = none ∧ sameWord text word = true) : Written lexeme word := by
  obtain rfl | ⟨hn, hs⟩ := h
  · exact hw
  · exact hw.recased hn hs

theorem Layout.relaid {pos : Nat} {tokens : List Token} {text : Text} (h : Layout pos tokens text)
    {before body : Text} (hp : before.byteLength = pos)
    (hr : Relaid (before ++ text) tokens body) :
    Lexeme.ofText body = tokens.map Token.lexeme := by
  induction h generalizing before body with
  | blank hg =>
    cases hr
    rfl
  | @unclosed pos gap text hg hu =>
    subst hp
    cases hr with
    | last hc =>
      obtain rfl | ⟨hn, -⟩ := (@recased_iff before gap text []).mp (by rwa [List.append_nil])
      · exact hu.ofText
      · cases hn
  | @next pos gap text rest lexeme tokens hg hw h ih =>
    subst hp
    cases hr with
    | last hc => exact (written_of_recased hw (recased_iff.mp hc)).reads.ofText
    | @cons _ token tokens word blanks others hc hn hb hr =>
      have hread := (written_of_recased hw (recased_iff.mp hc)).reads
      have hrest := @ih (before ++ (gap ++ text)) others
        (by simp only [byteLength_append, Nat.add_assoc]) (by simpa using hr)
      rw [hread _ (ends_gap hb hn others), reads_gap hb others, hrest]
      rfl

/-- Layout and the case of keywords make no difference. If the tokens of a text are written again
with blanks between them, some perhaps before them, and those without a text of their own in any
letter case, the lexemes are the same; and so is the query, or the error but for its place. -/
theorem layout_makes_no_difference {source lead body : Text} (hl : Blank lead)
    (hr : Relaid source (ofText source) body) :
    (ofText (lead ++ body)).map Token.lexeme = (ofText source).map Token.lexeme ∧
    (Query.ofText (lead ++ body)).mapError (CompileError.map fun _ => (default : Span)) =
      (Query.ofText source).mapError (CompileError.map fun _ => default) := by
  have hb : Lexeme.ofText body = (ofText source).map Token.lexeme :=
    @Layout.relaid 0 _ source (layout_ofText source) [] body rfl hr
  have hlex : (ofText (lead ++ body)).map Token.lexeme = (ofText source).map Token.lexeme := by
    rw [← hb]
    exact reads_gap hl body
  refine ⟨hlex, ?_⟩
  have hu (text : Text) : (Query.ofText text).mapError (CompileError.map fun _ => default) =
      Query.ofTree (Tree.ofLexemes ((ofText text).map Token.lexeme)) := by
    rw [Query.ofText, Tree.ofText, ← Tree.ofTokens_unplaced]
    exact (Query.ofTree_map _ _).symm
  rw [hu, hu, hlex]

theorem layout_makes_no_difference_spread :
    Relaid "select*from a".toList (ofText "select*from a".toList) "SELECT * \nFrom a".toList ∧
    (ofText "\tSELECT * \nFrom a".toList).map Token.lexeme =
      (ofText "select*from a".toList).map Token.lexeme ∧
    (Query.ofText "\tSELECT * \nFrom a".toList).mapError
        (CompileError.map fun _ => (default : Span)) =
      (Query.ofText "select*from a".toList).mapError (CompileError.map fun _ => default) := by
  have ht : ofText "select*from a".toList = [⟨.select, 0, 6⟩, ⟨.star, 6, 7⟩,
      ⟨.clause .source, 7, 11⟩, ⟨.literal .identifier ['a'], 12, 13⟩] := by
    decide +kernel
  have hselect : Recased "select*from a".toList ⟨.select, 0, 6⟩ "SELECT".toList :=
    ⟨"select".toList, by decide, .inr ⟨rfl, by decide⟩⟩
  have hstar : Recased "select*from a".toList ⟨.star, 6, 7⟩ ['*'] := ⟨['*'], by decide, .inl rfl⟩
  have hfrom : Recased "select*from a".toList ⟨.clause .source, 7, 11⟩ "From".toList :=
    ⟨"from".toList, by decide, .inr ⟨rfl, by decide⟩⟩
  have hname : Recased "select*from a".toList ⟨.literal .identifier ['a'], 12, 13⟩ ['a'] :=
    ⟨['a'], by decide, .inl rfl⟩
  have hspace : Blank [' '] := List.all_eq_true.mp rfl
  have hline : Blank [' ', '\n'] := List.all_eq_true.mp rfl
  have htab : Blank ['\t'] := List.all_eq_true.mp rfl
  have hr : Relaid "select*from a".toList (ofText "select*from a".toList)
      ("SELECT".toList ++ ([' '] ++ (['*'] ++ ([' ', '\n'] ++ ("From".toList ++
        ([' '] ++ ['a'])))))) := by
    rw [ht]
    exact .cons hselect (by simp) hspace
      (.cons hstar (by simp) hline (.cons hfrom (by simp) hspace (.last hname)))
  exact ⟨hr, layout_makes_no_difference htab hr⟩

end Token
end EntityQuery
