import EntityQuery.Unicode.Blank

/-!
Texts as lists of characters. A position in a text counts bytes of its encoded form, so one
character moves it by `Char.utf8Size`.
-/
namespace EntityQuery
open Unicode

abbrev Text := List Char

namespace Text

def byteLength : Text → Nat
  | [] => 0
  | c :: rest => c.utf8Size + byteLength rest

/-- The two parts of a text before and after its first `n` bytes; none if byte `n` is not between
two characters of the text. -/
def splitAt? : Nat → Text → Option (Text × Text)
  | 0, text => some ([], text)
  | _ + 1, [] => none
  | n + 1, c :: rest =>
    if c.utf8Size ≤ n + 1 then
      (splitAt? (n + 1 - c.utf8Size) rest).map fun (before, after) => (c :: before, after)
    else none

def slice? (start stop : Nat) (text : Text) : Option Text :=
  if start ≤ stop then
    (splitAt? start text).bind fun (_, rest) => (splitAt? (stop - start) rest).map (·.1)
  else none

def trimStart (text : Text) : Text :=
  text.dropWhile isBlank

def trim (text : Text) : Text :=
  (trimStart (trimStart text).reverse).reverse

def words : Text → List Text
  | [] => []
  | c :: rest =>
    if isBlank c then words rest
    else match rest, words rest with
      | d :: _, word :: more => if isBlank d then [c] :: word :: more else (c :: word) :: more
      | _, more => [c] :: more

/-- The parts between line feeds; a line feed at the end starts no further line. -/
def lines : Text → List Text
  | [] => []
  | c :: rest =>
    if c = '\n' then [] :: lines rest
    else match lines rest with
      | [] => [[c]]
      | line :: more => (c :: line) :: more

/-- The lowercase form as far as it is only about the letters `A` to `Z`. -/
def asciiLower (text : Text) : Text :=
  text.map Char.toLower

def sameWord (a b : Text) : Bool :=
  asciiLower a == asciiLower b

theorem byteLength_append (a b : Text) : byteLength (a ++ b) = byteLength a + byteLength b := by
  induction a with
  | nil => simp [byteLength]
  | cons c rest ih => simp [byteLength, ih, Nat.add_assoc]

theorem splitAt?_append (a b : Text) : splitAt? (byteLength a) (a ++ b) = some (a, b) := by
  induction a with
  | nil => simp [byteLength, splitAt?]
  | cons c rest ih =>
    have hc : 0 < c.utf8Size := c.utf8Size_pos
    obtain ⟨n, hn⟩ : ∃ n, c.utf8Size + byteLength rest = n + 1 :=
      ⟨c.utf8Size + byteLength rest - 1, by omega⟩
    have hd : n + 1 - c.utf8Size = byteLength rest := by omega
    simp only [byteLength, List.cons_append, hn, splitAt?, hd, ih]
    simp; omega

end Text
end EntityQuery
