import EntityQuery.Text.Numeral

/-!
JSON values and their indented text. A number is kept as it is written. A string may hold a
surrogate without its partner, which is no text: such a string has no characters to keep.
-/
namespace EntityQuery

inductive Json where
  | null
  | bool (b : Bool)
  | num (text : Text)
  | str (text : Option Text)
  | arr (items : List Json)
  | obj (members : List (Option Text × Json))

namespace Json

def text (text : Text) : Json :=
  str (some text)

def ofNat (n : Nat) : Json :=
  num (Text.ofNat n)

def object (members : List (String × Json)) : Json :=
  obj (members.map fun (key, value) => (some key.toList, value))

def tagged (tag : String) (value : Json) : Json :=
  object [(tag, value)]

def escapeChar (c : Char) : Text :=
  match c with
  | '"' => ['\\', '"']
  | '\\' => ['\\', '\\']
  | '\x08' => ['\\', 'b']
  | '\x0c' => ['\\', 'f']
  | '\n' => ['\\', 'n']
  | '\r' => ['\\', 'r']
  | '\t' => ['\\', 't']
  | _ =>
    if c.toNat < 0x20 then
      "\\u".toList ++ (Nat.toDigits 16 c.toNat).leftpad 4 '0'
    else [c]

def quote (text : Text) : Text :=
  '"' :: text.flatMap escapeChar ++ ['"']

def newLine (depth : Nat) : Text :=
  '\n' :: List.replicate (2 * depth) ' '

mutual

def render (depth : Nat) (value : Json) : Text :=
  match value with
  | null => "null".toList
  | bool b => (if b then "true" else "false").toList
  | num text => text
  | str text => quote (text.getD [])
  | arr [] => "[]".toList
  | arr (item :: rest) =>
    '[' :: renderItems (depth + 1) (item :: rest) ++ newLine depth ++ [']']
  | obj [] => ['\x7b', '\x7d']
  | obj (member :: rest) =>
    '\x7b' :: renderMembers (depth + 1) (member :: rest) ++ newLine depth ++ ['\x7d']
termination_by structural value

def renderItems (depth : Nat) (items : List Json) : Text :=
  match items with
  | [] => []
  | item :: rest =>
    newLine depth ++ render depth item ++ (if rest.isEmpty then [] else [',']) ++
      renderItems depth rest
termination_by structural items

def renderMember (depth : Nat) (member : Option Text × Json) : Text :=
  match member with
  | (key, value) => quote (key.getD []) ++ ": ".toList ++ render depth value
termination_by structural member

def renderMembers (depth : Nat) (members : List (Option Text × Json)) : Text :=
  match members with
  | [] => []
  | member :: rest =>
    newLine depth ++ renderMember depth member ++ (if rest.isEmpty then [] else [',']) ++
      renderMembers depth rest
termination_by structural members

end

end Json
end EntityQuery
