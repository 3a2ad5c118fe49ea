import EntityQuery.Text

/-!
Quoted texts. Between two quotes a doubled quote stands for one, and a backslash makes the next
character stand for itself; the same content has a form between single quotes and one between
double quotes.
-/
namespace EntityQuery.Text

/-- How many characters of a text that starts after an opening quote `q` belong to the quoted
text, its closing quote counted; none if no quote closes it. -/
def closing (q : Char) : Text → Option Nat
  | [] => none
  | [c] => if c = q then some 1 else none
  | c :: d :: rest =>
    if c = '\\' then (closing q rest).map (· + 2)
    else if c ≠ q then (closing q (d :: rest)).map (· + 1)
    else if d = q then (closing q rest).map (· + 2)
    else some 1

def enclosed? : Text → Option (Char × Text)
  | [] => none
  | [_] => none
  | q :: rest =>
    if (q = '\'' ∨ q = '"') ∧ rest.getLast? = some q then some (q, rest.dropLast) else none

def unquote (text : Text) : Text :=
  match enclosed? text with
  | some (_, content) => content
  | none => text

def unescape (q : Char) : Text → Text
  | [] => []
  | [c] => [c]
  | c :: d :: rest =>
    if c = '\\' then d :: unescape q rest
    else if c = q ∧ d = q then q :: unescape q rest
    else c :: unescape q (d :: rest)

def escape (text : Text) : Text :=
  text.flatMap fun c =>
    match c with
    | '\\' => ['\\', '\\']
    | '\'' => ['\'', '\'']
    | _ => [c]

/-- A content between double quotes as content between single quotes; the escapes that both kinds
of quotes share are kept as written. -/
def requote : Text → Text
  | [] => []
  | [c] => if c = '\'' then ['\'', '\''] else [c]
  | c :: d :: rest =>
    if c = '\\' then (if d = '"' then ['"'] else ['\\', d]) ++ requote rest
    else if c = '"' ∧ d = '"' then '"' :: requote rest
    else (if c = '\'' then ['\'', '\''] else [c]) ++ requote (d :: rest)

def singleQuoted (text : Text) : Text :=
  match enclosed? text with
  | some ('"', content) => requote content
  | some (_, content) => content
  | none => text

/-- The name that a written name stands for: a bare one for itself, a quoted one for its plain
text. -/
def nameOf (text : Text) : Text :=
  match enclosed? text with
  | some (q, content) => unescape q content
  | none => text

end EntityQuery.Text
