import EntityQuery.Json

/-!
The tokens of a JSON text.
-/
namespace EntityQuery.Json
open Text

/-- What a string consists of: characters, and code units given by number. -/
inductive Piece where
  | char (c : Char)
  | unit (n : Nat)

def hexDigit? (c : Char) : Option Nat :=
  if c.isDigit then some (c.toNat - '0'.toNat)
  else if 'a' ≤ c ∧ c ≤ 'f' then some (c.toNat - 'a'.toNat + 10)
  else if 'A' ≤ c ∧ c ≤ 'F' then some (c.toNat - 'A'.toNat + 10)
  else none

def unit? (digits : Text) : Option Nat :=
  digits.foldl (fun n c => do return 16 * (← n) + (← hexDigit? c)) (some 0)

def escaped? : Char → Option Char
  | '"' => some '"'
  | '\\' => some '\\'
  | '/' => some '/'
  | 'b' => some '\x08'
  | 'f' => some '\x0c'
  | 'n' => some '\n'
  | 'r' => some '\r'
  | 't' => some '\t'
  | _ => none

/-- The pieces of a string up to its closing quote, and how many characters they and the quote
take. -/
def pieces? : Text → Option (List Piece × Nat)
  | [] => none
  | '"' :: _ => some ([], 1)
  | '\\' :: 'u' :: a :: b :: c :: d :: rest =>
    match unit? [a, b, c, d], pieces? rest with
    | some n, some (pieces, length) => some (.unit n :: pieces, length + 6)
    | _, _ => none
  | '\\' :: c :: rest =>
    match escaped? c, pieces? rest with
    | some c, some (pieces, length) => some (.char c :: pieces, length + 2)
    | _, _ => none
  | c :: rest =>
    if c.toNat < 0x20 then none
    else (pieces? rest).map fun (pieces, length) => (.char c :: pieces, length + 1)

/-- The text of the pieces. A surrogate needs its partner right after it; with it, it is one
character. -/
def join? : List Piece → Option Text
  | [] => some []
  | .char c :: rest => (join? rest).map (c :: ·)
  | .unit high :: .unit low :: rest =>
    if 0xD800 ≤ high ∧ high < 0xDC00 then
      if 0xDC00 ≤ low ∧ low < 0xE000 then
        (join? rest).map (Char.ofNat (0x10000 + (high - 0xD800) * 0x400 + (low - 0xDC00)) :: ·)
      else none
    else if 0xDC00 ≤ high ∧ high < 0xE000 then none
    else (join? (.unit low :: rest)).map (Char.ofNat high :: ·)
  | .unit n :: rest =>
    if 0xD800 ≤ n ∧ n < 0xE000 then none else (join? rest).map (Char.ofNat n :: ·)

def exponentLength (text : Text) : Nat :=
  match text with
  | e :: rest =>
    if e = 'e' ∨ e = 'E' then
      match rest with
      | sign :: digits =>
        if sign = '+' ∨ sign = '-' then
          if digitRun digits = 0 then 0 else digitRun digits + 2
        else if digitRun rest = 0 then 0 else digitRun rest + 1
      | [] => 0
    else 0
  | [] => 0

/-- How many characters at the start are a number without its sign; none if there is none, or if
it breaks off after a point or an `e`. -/
def unsignedLength? (text : Text) : Option Nat :=
  let whole := if text.head? = some '0' then 1 else digitRun text
  let rest := text.drop whole
  let fraction := fractionLength rest
  let rest := rest.drop fraction
  let exponent := exponentLength rest
  let broken := match rest with
    | c :: _ => c = '.' && fraction = 0 || (c = 'e' || c = 'E') && exponent = 0
    | [] => false
  if whole = 0 || broken then none else some (whole + fraction + exponent)

inductive Token where
  | beginArray
  | endArray
  | beginObject
  | endObject
  | comma
  | colon
  | scalar (value : Json)

def word? (ending : String) (rest : Text) (value : Json) : Option (Token × Nat) :=
  if ending.toList.isPrefixOf rest then some (.scalar value, ending.length) else none

/-- The token that starts with `c`, and how many of the characters after it belong to it. -/
def token? (c : Char) (rest : Text) : Option (Token × Nat) :=
  match c with
  | '[' => some (.beginArray, 0)
  | ']' => some (.endArray, 0)
  | '\x7b' => some (.beginObject, 0)
  | '\x7d' => some (.endObject, 0)
  | ',' => some (.comma, 0)
  | ':' => some (.colon, 0)
  | '"' => (pieces? rest).map fun (pieces, length) => (.scalar (.str (join? pieces)), length)
  | 'n' => word? "ull" rest null
  | 't' => word? "rue" rest (bool true)
  | 'f' => word? "alse" rest (bool false)
  | '-' =>
    (unsignedLength? rest).map fun length => (.scalar (num (c :: rest.take length)), length)
  | _ =>
    (unsignedLength? (c :: rest)).map fun length =>
      (.scalar (num (c :: rest.take (length - 1))), length - 1)

def isSpace (c : Char) : Bool :=
  c = ' ' || c = '\n' || c = '\t' || c = '\r'

/-- The tokens after the `pending` characters that belong to the token before. -/
def tokensAfter? : Nat → Text → Option (List Token)
  | _, [] => some []
  | pending + 1, _ :: rest => tokensAfter? pending rest
  | 0, c :: rest =>
    if isSpace c then tokensAfter? 0 rest
    else
      match token? c rest with
      | some (token, length) => (tokensAfter? length rest).map (token :: ·)
      | none => none

end EntityQuery.Json
