import EntityQuery.Calendar.Date

/-!
Moments: a date and a time of day, with or without an offset from universal time. A minute may
have a second 60.
-/
namespace EntityQuery.Calendar

structure Time where
  hour : Nat
  minute : Nat
  second : Nat
  nano : Nat
  valid : hour ≤ 23 ∧ minute ≤ 59 ∧ second ≤ 60 ∧ nano < 1000000000
  deriving DecidableEq

namespace Time

def ofParts? (hour minute second nano : Nat) : Option Time :=
  if h : hour ≤ 23 ∧ minute ≤ 59 ∧ second ≤ 60 ∧ nano < 1000000000 then
    some ⟨hour, minute, second, nano, h⟩
  else none

def read? (part : Text → Option (Nat × Text)) (mark : Char → Text → Option Text)
    (text : Text) : Option (Time × Text) := do
  let (hour, rest) ← part text
  let (minute, rest) ← part (← mark ':' rest)
  let (second, rest) ← part (← mark ':' rest)
  let (nano, rest) ← fraction? rest
  return (← ofParts? hour minute second nano, rest)

def clock (time : Time) : Text :=
  Text.ofNatWide 2 time.hour ++ ':' :: Text.ofNatWide 2 time.minute ++
    ':' :: Text.ofNatWide 2 time.second

/-- The fraction of the second, with as many threes of digits as it needs. -/
def fraction (time : Time) : Text :=
  if time.nano = 0 then []
  else if time.nano % 1000000 = 0 then '.' :: Text.ofNatWide 3 (time.nano / 1000000)
  else if time.nano % 1000 = 0 then '.' :: Text.ofNatWide 6 (time.nano / 1000)
  else '.' :: Text.ofNatWide 9 time.nano

end Time

structure Offset where
  minutes : Int
  valid : minutes.natAbs < 1440
  deriving DecidableEq

namespace Offset

def ofParts? (negative : Bool) (hours minutes : Nat) : Option Offset :=
  if h : minutes ≤ 59 ∧ hours ≤ 23 then
    some ⟨if negative then -(60 * hours + minutes : Nat) else (60 * hours + minutes : Nat),
      by split <;> omega⟩
  else none

/-- An offset at the start of a text: `Z`, or a sign, hours and minutes. -/
def read? : Text → Option (Offset × Text)
  | [] => none
  | c :: rest =>
    if c = 'Z' ∨ c = 'z' then some (⟨0, by decide⟩, rest)
    else if c = '+' ∨ c = '-' ∨ c = '−' then do
      let (hours, rest) ← twoDigits? rest
      let (minutes, rest) ← twoDigits? (← mark? ':' rest)
      return (← ofParts? (c != '+') hours minutes, rest)
    else none

def render (offset : Offset) : Text :=
  let minutes := offset.minutes.natAbs
  (if offset.minutes < 0 then '-' else '+') ::
    Text.ofNatWide 2 (minutes / 60) ++ ':' :: Text.ofNatWide 2 (minutes % 60)

end Offset

structure DateTime where
  date : Date
  time : Time
  offset : Option Offset
  deriving DecidableEq

namespace DateTime

def fullDate? (text : Text) : Option (Date × Text) := do
  let (year, rest) ← digitsUpTo 4 4 text
  let (month, rest) ← twoDigits? (← mark? '-' rest)
  let (day, rest) ← twoDigits? (← mark? '-' rest)
  return (← Date.ofParts? year month day, rest)

def separator? : Text → Option Text
  | [] => none
  | c :: rest => if c = 'T' ∨ c = 't' ∨ c = ' ' then some rest else none

def absolute? (text : Text) : Option DateTime := do
  let (date, rest) ← fullDate? text
  let (time, rest) ← Time.read? twoDigits? mark? (← separator? rest)
  match ← Offset.read? rest with
  | (offset, []) => some ⟨date, time, some offset⟩
  | _ => none

/-- A moment without an offset, with blanks between its parts as one likes. -/
def local? (text : Text) : Option DateTime := do
  let (date, rest) ← Date.read? looseMark? text
  let (time, rest) ← Time.read? part? looseMark? (← looseMark? 'T' rest)
  match rest.trimStart with
  | [] => some ⟨date, time, none⟩
  | _ => none

def ofText? (text : Text) : Option DateTime :=
  (absolute? text).or (local? text)

def renderOffset (offset : Offset) : Text :=
  if offset.minutes = 0 then ['Z'] else offset.render

def render (moment : DateTime) : Text :=
  moment.date.render ++ 'T' :: moment.time.clock ++ moment.time.fraction ++
    (moment.offset.map renderOffset).getD []

end DateTime
end EntityQuery.Calendar
