import EntityQuery.Proofs.Lexeme.Boundary
import EntityQuery.Proofs.Value
import EntityQuery.Sql.Condition

/-! Strings on every path. A quoted text of either kind has one value, which is written between
single quotes and read again as one string, and the text that a statement binds for it is the text
that it stands for as a name. Any plain text can be written as such a string, and none of them is
read as more than its string. -/
namespace EntityQuery
open Lexeme Text

namespace Token

/-- The text is one string token wherever it begins, unless its closing quote is doubled by what
comes after it. -/
def OneString (text : Text) : Prop :=
  ∀ (pos : Nat) (tail : Text), tail.head? ≠ some '\'' →
    ofTextFrom pos 0 (text ++ tail) =
      ⟨.literal .string text, pos, pos + text.byteLength⟩ ::
        ofTextFrom (pos + text.byteLength) 0 tail

theorem oneString_body {body : Text} (h : Body '\'' body) :
    OneString ('\'' :: body ++ ['\'']) := by
  intro pos tail ht
  have hq : IsQuote '\'' := .inl rfl
  rw [List.cons_append]
  refine ofTextFrom_read (@next_quote [] _ hq).1 ?_ pos
  rw [List.append_assoc, List.singleton_append]
  exact next_string hq h ht

theorem oneString_plain (plain : Text) : OneString (Value.ofPlain plain).render :=
  oneString_body (body_escape plain)

/-- Whichever plain text is written as a string between the two texts, that string is one token
where it begins, and the tokens around it carry the same. -/
def ConfinesPlain (before after : Text) : Prop :=
  ∃ left right, ∀ plain, ∃ following,
    ofText (before ++ (Value.ofPlain plain).render ++ after) =
      left ++ ⟨.literal .string (Value.ofPlain plain).render, before.byteLength,
        before.byteLength + (Value.ofPlain plain).render.byteLength⟩ :: following ∧
    following.map Token.lexeme = right

theorem confinesPlain {plain before after : Text} (ha : after.head? ≠ some '\'')
    (h : ∃ token ∈ ofText (before ++ (Value.ofPlain plain).render ++ after),
      token.span.start = before.byteLength) : ConfinesPlain before after := by
  obtain ⟨token, hm, hs⟩ := h
  have hr (other : Text) : before ++ (Value.ofPlain other).render ++ after =
      before ++ '\'' :: (escape other ++ '\'' :: after) := by
    simp [Value.ofPlain, Value.render]
  rw [ofText, hr] at hm
  rw [← Nat.zero_add before.byteLength] at hs
  obtain ⟨-, left, hl⟩ := exists_before hm hs
  refine ⟨left, Lexeme.ofText after, fun other => ⟨ofTextFrom (before.byteLength +
    (Value.ofPlain other).render.byteLength) 0 after, ?_, ofTextFrom_lexemes after _ 0⟩⟩
  have ho : '\'' :: (escape other ++ '\'' :: after) = (Value.ofPlain other).render ++ after := by
    simp [Value.ofPlain, Value.render]
  rw [ofText, hr, hl, ho, oneString_plain other _ _ ha, Nat.zero_add]

end Token

namespace Value

theorem ofComparison_str (op : Operator) (column content : Text) :
    Sql.Condition.ofComparison op column (.str content) =
      .ok (.compare op column (.string (unescape '\'' content))) := by
  cases op <;> rfl

theorem unescape_singleQuoted {q : Char} (hq : IsQuote q) {content : Text} (h : Body q content) :
    unescape '\'' (singleQuoted (q :: content ++ [q])) = unescape q content := by
  rcases hq with rfl | rfl
  · rw [singleQuoted_single]
  · rw [singleQuoted_double, unescape_requote h]

/-- Both kinds of quotes mean the same text on every path. The value of a quoted text, written
between single quotes, is one string token of the same value, and the text that a statement binds
for it is the one that the quoted text stands for as a name. -/
theorem quotes_agree {source text : Text}
    (h : Lexeme.literal .string text ∈ Lexeme.ofText source) :
    ∃ q content body, IsQuote q ∧ text = q :: content ++ [q] ∧
      ofNode (.literal .string) text = str body ∧
      Token.OneString ('\'' :: body ++ ['\'']) ∧
      ofNode (.literal .string) ('\'' :: body ++ ['\'']) = str body ∧
      (str body).render = '\'' :: body ++ ['\''] ∧
      unescape '\'' body = nameOf text ∧
      nameOf text = unescape q (unquote text) ∧
      ∀ op column, Sql.Condition.ofComparison op column (str body) =
        .ok (.compare op column (.string (nameOf text))) := by
  obtain ⟨c, rest, -, hn⟩ := exists_next h
  obtain ⟨q, content, hq, hb, rfl⟩ := (next_spelled hn).1.quoted
  have he := enclosed?_quoted hq content
  have hname : nameOf (q :: content ++ [q]) = unescape q content := by rw [nameOf, he]
  have hplain := unescape_singleQuoted hq hb
  refine ⟨q, content, singleQuoted (q :: content ++ [q]), hq, rfl, rfl,
    Token.oneString_body (body_singleQuoted hq hb), congrArg str (singleQuoted_single _), rfl,
    hplain.trans hname.symm, ?_, fun op column => ?_⟩
  · rw [hname, unquote, he]
  · rw [ofComparison_str, hplain, hname]

theorem quotes_agree_mixed :
    Lexeme.literal .string "\"it's \\'so\\' \"\"now\\\"\"".toList ∈
        Lexeme.ofText "name = \"it's \\'so\\' \"\"now\\\"\", 1".toList ∧
      ∃ body, ofNode (.literal .string) "\"it's \\'so\\' \"\"now\\\"\"".toList = str body ∧
        Token.OneString ('\'' :: body ++ ['\'']) ∧
        unescape '\'' body = nameOf "\"it's \\'so\\' \"\"now\\\"\"".toList ∧
        nameOf "\"it's \\'so\\' \"\"now\\\"\"".toList = "it's 'so' \"now\"".toList := by
  have h : Lexeme.literal .string "\"it's \\'so\\' \"\"now\\\"\"".toList ∈
      Lexeme.ofText "name = \"it's \\'so\\' \"\"now\\\"\", 1".toList := by
    decide +kernel
  obtain ⟨-, -, body, -, -, hv, ho, -, -, hu, -⟩ := quotes_agree h
  exact ⟨h, body, hv, ho, hu, by decide +kernel⟩

/-- A plain text cannot leave its string. Written as a literal it is one string token, of which it
is the value and the text that a statement binds. Where such a literal begins a token of a longer
text, another plain text in its place changes that token and no other. -/
theorem plain_text_stays_inside (plain : Text) :
    Token.OneString (ofPlain plain).render ∧
    ofNode (.literal .string) (ofPlain plain).render = ofPlain plain ∧
    (∃ body, (ofPlain plain).render = '\'' :: body ++ ['\''] ∧ unescape '\'' body = plain) ∧
    (∀ op column, Sql.Condition.ofComparison op column (ofPlain plain) =
      .ok (.compare op column (.string plain))) ∧
    ∀ before after : Text, after.head? ≠ some '\'' →
      (∃ token ∈ Token.ofText (before ++ (ofPlain plain).render ++ after),
        token.span.start = before.byteLength) →
      Token.ConfinesPlain before after := by
  refine ⟨Token.oneString_plain plain, congrArg str (singleQuoted_single _),
    ⟨escape plain, rfl, unescape_escape plain⟩, fun op column => ?_,
    fun before after ha h => Token.confinesPlain ha h⟩
  rw [ofPlain, ofComparison_str, unescape_escape]

theorem plain_text_stays_inside_hostile :
    (∃ token ∈ Token.ofText ("SELECT a FROM t WHERE b = ".toList ++
        (ofPlain "x\\' OR 'y' = '".toList).render ++ " AND c = \"it's\"".toList),
      token.span.start = byteLength "SELECT a FROM t WHERE b = ".toList) ∧
    Token.ConfinesPlain "SELECT a FROM t WHERE b = ".toList " AND c = \"it's\"".toList := by
  obtain ⟨-, -, -, -, hc⟩ := plain_text_stays_inside "x\\' OR 'y' = '".toList
  have h : ∃ token ∈ Token.ofText ("SELECT a FROM t WHERE b = ".toList ++
      (ofPlain "x\\' OR 'y' = '".toList).render ++ " AND c = \"it's\"".toList),
      token.span.start = byteLength "SELECT a FROM t WHERE b = ".toList := by
    decide +kernel
  exact ⟨h, hc _ _ (by decide) h⟩

end Value
end EntityQuery
