import EntityQuery.Text.Numeral

/-!
Reading the parts of dates and times: each reader gives what it read and the rest of the text.
-/
namespace EntityQuery.Calendar

/-- The number of the digits at the start, of which there have to be at least `least` and of
which at most `most` are taken. -/
def digitsUpTo (least most : Nat) (text : Text) : Option (Nat × Text) :=
  let digits := (text.take most).takeWhile Char.isDigit
  if digits.length < least then none
  else some (Nat.ofDigitChars 10 digits 0, text.drop digits.length)

def part? (text : Text) : Option (Nat × Text) :=
  digitsUpTo 1 2 text.trimStart

def twoDigits? (text : Text) : Option (Nat × Text) :=
  digitsUpTo 2 2 text

/-- A year, perhaps after blanks: up to four digits, or a sign and any number of them. -/
def year? (text : Text) : Option (Int × Text) :=
  match text.trimStart with
  | '-' :: rest => (digitsUpTo 1 rest.length rest).map fun (year, rest) => (-(year : Int), rest)
  | '+' :: rest => (digitsUpTo 1 rest.length rest).map fun (year, rest) => (year, rest)
  | rest => (digitsUpTo 1 4 rest).map fun (year, rest) => (year, rest)

def mark? (mark : Char) : Text → Option Text
  | [] => none
  | c :: rest => if c = mark then some rest else none

def looseMark? (mark : Char) (text : Text) : Option Text :=
  mark? mark text.trimStart

/-- The nanoseconds of a point and the digits after it, of which those after the ninth do not
count; zero without a point. -/
def fraction? : Text → Option (Nat × Text)
  | '.' :: rest =>
    let digits := rest.takeWhile Char.isDigit
    if digits.isEmpty then none
    else some (Nat.ofDigitChars 10 ((digits.take 9).rightpad 9 '0') 0, rest.drop digits.length)
  | text => some (0, text)

end EntityQuery.Calendar
