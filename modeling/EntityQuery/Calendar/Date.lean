import EntityQuery.Calendar.Part

/-!
Days of the Gregorian calendar, continued before its start, with the year zero before year one.
-/
namespace EntityQuery.Calendar

def isLeapYear (year : Int) : Bool :=
  year % 4 = 0 && (year % 100 ≠ 0 || year % 400 = 0)

def daysInMonth (year : Int) : Nat → Nat
  | 2 => if isLeapYear year then 29 else 28
  | 4 | 6 | 9 | 11 => 30
  | _ => 31

def isDate (year : Int) (month day : Nat) : Bool :=
  -262143 ≤ year && year ≤ 262142 && 1 ≤ month && month ≤ 12 && 1 ≤ day &&
    day ≤ daysInMonth year month

structure Date where
  year : Int
  month : Nat
  day : Nat
  valid : isDate year month day = true
  deriving DecidableEq

namespace Date

def ofParts? (year : Int) (month day : Nat) : Option Date :=
  if h : isDate year month day = true then some ⟨year, month, day, h⟩ else none

def read? (mark : Char → Text → Option Text) (text : Text) : Option (Date × Text) := do
  let (year, rest) ← year? text
  let (month, rest) ← part? (← mark '-' rest)
  let (day, rest) ← part? (← mark '-' rest)
  return (← ofParts? year month day, rest)

def ofText? (text : Text) : Option Date :=
  match read? mark? text with
  | some (date, []) => some date
  | _ => none

def renderYear (year : Int) : Text :=
  let digits := Text.ofNatWide 4 year.natAbs
  if year < 0 then '-' :: digits
  else if year ≤ 9999 then digits
  else '+' :: digits

def render (date : Date) : Text :=
  renderYear date.year ++ '-' :: Text.ofNatWide 2 date.month ++ '-' :: Text.ofNatWide 2 date.day

end Date
end EntityQuery.Calendar
