import EntityQuery.Text
import EntityQuery.Unicode.Extender
import EntityQuery.Unicode.Ignorable
import EntityQuery.Unicode.Printable

/-!
Texts as messages show them: between double quotes, with a visible form for every character.
-/
namespace EntityQuery.Text
open Unicode

def shownCode (c : Char) : Text :=
  "\\u\x7b".toList ++ Nat.toDigits 16 c.toNat ++ ['\x7d']

/-- Whether a character can be seen on its own: it has a glyph, and not one that joins the character
before it. -/
def isVisible (c : Char) : Bool :=
  isPrintable c && !isIgnorable c && !isExtender c

def shownChar (c : Char) : Text :=
  match c with
  | '\x00' => ['\\', '0']
  | '\t' => ['\\', 't']
  | '\r' => ['\\', 'r']
  | '\n' => ['\\', 'n']
  | '"' => ['\\', '"']
  | '\\' => ['\\', '\\']
  | _ => if isVisible c then [c] else shownCode c

def shown (text : Text) : Text :=
  '"' :: text.flatMap shownChar ++ ['"']

end EntityQuery.Text
