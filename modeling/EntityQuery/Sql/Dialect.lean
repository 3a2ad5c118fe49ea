import EntityQuery.Text

/-!
The dialects of SQL and how they quote.
-/
namespace EntityQuery

inductive Dialect where
  | postgres
  | mysql
  | sqlite
  deriving DecidableEq

namespace Dialect

def name : Dialect → String
  | postgres => "postgres"
  | mysql => "mysql"
  | sqlite => "sqlite"

def all : List Dialect :=
  [postgres, mysql, sqlite]

def ofName? (text : Text) : Option Dialect :=
  all.find? fun dialect => dialect.name.toList = text

def ofWord (text : Text) : Except Text Dialect :=
  let word := Text.asciiLower text.trim
  if word = "postgresql".toList then .ok postgres
  else match ofName? word with
    | some dialect => .ok dialect
    | none => .error word

def unknownMessage (word : Text) : Text :=
  "unknown backend: ".toList ++ word

def nameQuote : Dialect → Char
  | mysql => '\x60'
  | _ => '"'

def quoteName (dialect : Dialect) (name : Text) : Text :=
  let q := dialect.nameQuote
  q :: name.flatMap (fun c => if c = q then [q, q] else [c]) ++ [q]

def escapeChar (c : Char) : Text :=
  match c with
  | '\\' => ['\\', '\\']
  | '"' => ['\\', '"']
  | '\'' => ['\\', '\'']
  | '\x00' => ['\\', '0']
  | '\x08' => ['\\', 'b']
  | '\t' => ['\\', 't']
  | '\x1a' => ['\\', 'z']
  | '\n' => ['\\', 'n']
  | '\r' => ['\\', 'r']
  | _ => [c]

def quoteString (dialect : Dialect) (plain : Text) : Text :=
  match dialect with
  | sqlite => '\'' :: plain.flatMap (fun c => if c = '\'' then ['\'', '\''] else [c]) ++ ['\'']
  | mysql => '\'' :: plain.flatMap escapeChar ++ ['\'']
  | postgres =>
    let content := plain.flatMap escapeChar
    (if content.contains '\\' then ['E'] else []) ++ '\'' :: content ++ ['\'']

end Dialect
end EntityQuery
