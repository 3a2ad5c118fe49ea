import EntityQuery.Text.Shown

/-!
Sort directions and the words they are known by.
-/
namespace EntityQuery

inductive Direction where
  | asc
  | desc
  deriving DecidableEq

namespace Direction

def keyword : Direction → String
  | asc => "ASC"
  | desc => "DESC"

def words : List (String × Direction) :=
  [("asc", asc), ("ascending", asc), ("desc", desc), ("descending", desc)]

def ofWord? (text : Text) : Option Direction :=
  (words.find? fun (word, _) => Text.sameWord word.toList text.trim).map (·.2)

def unknownMessage (text : Text) : Text :=
  "unmapped sort direction ".toList ++ text.shown

end Direction
end EntityQuery
