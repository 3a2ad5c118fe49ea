import EntityQuery.Text.Numeral

/-!
Decimal numbers with at most 28 fraction digits and a mantissa below `2 ^ 96`. A number keeps
the scale it was written with, so `1.50` and `1.5` differ.
-/
namespace EntityQuery

structure Decimal where
  mantissa : Int
  scale : Nat
  scale_le : scale ≤ 28
  mantissa_lt : mantissa.natAbs < 0x1000000000000000000000000
  deriving DecidableEq

namespace Decimal

/-- Read on after the digits of `mantissa`, of which `scale` stand after a point, if there has
been one. An underscore may stand after any digit; nothing may follow the 28th fraction digit. -/
def readFrom (point digits : Bool) (mantissa scale : Nat) : Text → Option (Nat × Nat)
  | [] => if digits then some (mantissa, scale) else none
  | c :: rest =>
    if scale = 28 then none
    else if c.isDigit then
      readFrom point true (10 * mantissa + (c.toNat - '0'.toNat)) (if point then scale + 1 else 0)
        rest
    else if c = '.' ∧ point = false then readFrom true digits mantissa scale rest
    else if c = '_' ∧ digits = true then readFrom point digits mantissa scale rest
    else none

def ofParts? (mantissa : Int) (scale : Nat) : Option Decimal :=
  if h : scale ≤ 28 ∧ mantissa.natAbs < 0x1000000000000000000000000 then
    some ⟨mantissa, scale, h.1, h.2⟩
  else none

def ofText? (text : Text) : Option Decimal :=
  let (negative, unsigned) :=
    match text with
    | '-' :: rest => (true, rest)
    | '+' :: rest => (false, rest)
    | _ => (false, text)
  (readFrom false false 0 0 unsigned).bind fun (mantissa, scale) =>
    ofParts? (if negative then -(mantissa : Int) else mantissa) scale

/-- At least one digit before the point, and as many after it as the scale says. -/
def render (d : Decimal) : Text :=
  let digits := Text.ofNatWide (d.scale + 1) d.mantissa.natAbs
  let whole := digits.length - d.scale
  (if d.mantissa < 0 then ['-'] else []) ++ digits.take whole ++
    if d.scale = 0 then [] else '.' :: digits.drop whole

end Decimal
end EntityQuery
