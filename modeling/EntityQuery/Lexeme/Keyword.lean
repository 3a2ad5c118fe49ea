import EntityQuery.Lexeme

/-!
The words that are not identifiers. The case of their letters does not matter.
-/
namespace EntityQuery.Lexeme

def keywords : List (String × Lexeme) :=
  [("select", select), ("from", clause .source), ("where", clause .filter), ("and", and),
   ("or", or), ("not", not), ("order", clause .ordering), ("by", byWord),
   ("asc", direction .asc), ("ascending", direction .asc), ("desc", direction .desc),
   ("descending", direction .desc), ("limit", clause .limit), ("offset", clause .offset),
   ("like", comparator .like), ("null", null)]

def ofWord (word : Text) : Lexeme :=
  match keywords.find? fun (keyword, _) => Text.sameWord keyword.toList word with
  | some (_, lexeme) => lexeme
  | none =>
    if Text.sameWord "true".toList word || Text.sameWord "false".toList word then
      literal .boolean word
    else literal .identifier word

end EntityQuery.Lexeme
