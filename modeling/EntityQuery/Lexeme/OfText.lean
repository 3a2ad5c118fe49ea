import EntityQuery.Lexeme.Keyword
import EntityQuery.Lexeme.Timestamp
import EntityQuery.Text.Quoted
import EntityQuery.Unicode.Alphabetic
import EntityQuery.Unicode.Number

/-!
The lexemes of a text. Every text has them: what no rule reads becomes an illegal lexeme of one
character, and a quoted text or a host expression without an end becomes one up to the end.
-/
namespace EntityQuery
open Unicode

namespace Lexeme

def startsWord (c : Char) : Bool :=
  isAlphabetic c || c == '_'

def continuesWord (c : Char) : Bool :=
  isAlphabetic c || isNumber c || c == '_' || c == '.'

/-- How many characters belong to a bracketed text of which `depth` brackets are open, the one
counted that closes the last of them; none if they are not all closed. -/
def closingBracket (depth : Nat) : Text → Option Nat
  | [] => none
  | c :: rest =>
    if c = '[' then (closingBracket (depth + 1) rest).map (· + 1)
    else if c = ']' then
      if depth ≤ 1 then some 1 else (closingBracket (depth - 1) rest).map (· + 1)
    else (closingBracket depth rest).map (· + 1)

def literalOf (kind : LiteralKind) (c : Char) (rest : Text) (n : Nat) : Lexeme × Nat :=
  (literal kind (c :: rest.take n), n)

/-- A literal of known extent, or an illegal lexeme up to the end of the text. -/
def delimited (kind : LiteralKind) (c : Char) (rest : Text) : Option Nat → Lexeme × Nat
  | some n => literalOf kind c rest n
  | none => (illegal (c :: rest), rest.length)

def number (c : Char) (rest : Text) : Lexeme × Nat :=
  match Timestamp.length? (c :: rest) with
  | some n => literalOf (if n = Timestamp.dateLength then .date else .dateTime) c rest (n - 1)
  | none =>
    let whole := Text.digitRun rest
    let fraction := Text.fractionLength (rest.drop whole)
    literalOf (if fraction = 0 then .integer else .decimal) c rest (whole + fraction)

def word (c : Char) (rest : Text) : Lexeme × Nat :=
  let more := rest.takeWhile continuesWord
  (ofWord (c :: more), more.length)

/-- The lexeme that starts with `c`, and how many of the characters after it belong to it. -/
def next (c : Char) (rest : Text) : Lexeme × Nat :=
  let follows (p : Char → Bool) : Bool := (rest.head?.map p).getD false
  if c = '=' then (comparator .eq, 0)
  else if c = '*' then (star, 0)
  else if c = ',' then (comma, 0)
  else if c = '(' then (openParen, 0)
  else if c = ')' then (closeParen, 0)
  else if c = '<' then
    if follows (· == '=') then (comparator .lte, 1)
    else if follows (· == '>') then (comparator .neq, 1)
    else (comparator .lt, 0)
  else if c = '>' then
    if follows (· == '=') then (comparator .gte, 1) else (comparator .gt, 0)
  else if c = '!' && follows (· == '=') then (comparator .neq, 1)
  else if c = '#' && follows (· == '[') then
    delimited .hostExpression c rest (closingBracket 0 rest)
  else if c = '\'' || c = '"' then delimited .string c rest (Text.closing c rest)
  else if c.isDigit || c = '-' && follows Char.isDigit then number c rest
  else if startsWord c then word c rest
  else (illegal [c], 0)

end Lexeme

namespace Token

/-- The tokens of a text that starts at byte `pos`, after the `pending` characters that belong to
the token before it. -/
def ofTextFrom (pos : Nat) : Nat → Text → List Token
  | _, [] => []
  | pending + 1, c :: rest => ofTextFrom (pos + c.utf8Size) pending rest
  | 0, c :: rest =>
    let after := pos + c.utf8Size
    if isBlank c then ofTextFrom after 0 rest
    else
      let (lexeme, n) := Lexeme.next c rest
      ⟨lexeme, pos, after + Text.byteLength (rest.take n)⟩ :: ofTextFrom after n rest

def ofText (text : Text) : List Token :=
  ofTextFrom 0 0 text

end Token
end EntityQuery
