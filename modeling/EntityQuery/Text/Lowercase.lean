import EntityQuery.Text
import EntityQuery.Unicode.Cased
import EntityQuery.Unicode.Lowercase

/-!
The lowercase form of a text in any script. It is taken character by character, but for the
capital sigma, whose form hangs on the letters around it.
-/
namespace EntityQuery.Text
open Unicode

/-- Whether the first character that decides about case is a letter of some case. -/
def meetsCased : Text → Bool
  | [] => false
  | c :: rest => if isCaseIgnorable c then meetsCased rest else isCased c

/-- The lowercase form of a text that follows `before`, which is given from its end. -/
def lowercaseAfter (before : Text) : Text → Text
  | [] => []
  | c :: rest =>
    let here :=
      if c = 'Σ' then [if meetsCased before && !meetsCased rest then 'ς' else 'σ'] else lower c
    here ++ lowercaseAfter (c :: before) rest

def lowercase (text : Text) : Text :=
  lowercaseAfter [] text

end EntityQuery.Text
