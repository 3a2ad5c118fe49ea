import EntityQuery.Text.Numeral

/-!
Dates and date-times as they are written in a query text:
`dddd-dd-dd[Tdd:dd:dd[.d+][Z|(+|-)dd:dd]]`. The longest start of that form counts.
-/
namespace EntityQuery.Timestamp

/-- Whether the text starts like the template, in which a `0` stands for any digit. -/
def fits : Text → Text → Bool
  | [], _ => true
  | _ :: _, [] => false
  | p :: template, c :: rest => (if p = '0' then c.isDigit else c == p) && fits template rest

def zoneLength (text : Text) : Nat :=
  match text with
  | [] => 0
  | c :: rest =>
    if c = 'Z' then 1
    else if (c = '+' ∨ c = '-') ∧ fits "00:00".toList rest then 6
    else 0

def dateLength : Nat := 10

def length? (text : Text) : Option Nat :=
  if fits "0000-00-00".toList text then
    let time := text.drop dateLength
    if fits "T00:00:00".toList time then
      let fraction := Text.fractionLength (time.drop 9)
      some (dateLength + 9 + fraction + zoneLength (time.drop (9 + fraction)))
    else some dateLength
  else none

end EntityQuery.Timestamp
