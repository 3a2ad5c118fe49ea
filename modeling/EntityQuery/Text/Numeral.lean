import EntityQuery.Text

/-!
Whole numbers in decimal notation: how they are written, and which texts are read as one.
-/
namespace EntityQuery.Text

def ofNat (n : Nat) : Text :=
  Nat.toDigits 10 n

def ofInt : Int → Text
  | .ofNat n => ofNat n
  | .negSucc n => '-' :: ofNat (n + 1)

def ofNatWide (width n : Nat) : Text :=
  (ofNat n).leftpad width '0'

def digitRun : Text → Nat
  | [] => 0
  | c :: rest => if c.isDigit then digitRun rest + 1 else 0

/-- How many characters at the start are a point and the digits after it; none without digits. -/
def fractionLength : Text → Nat
  | '.' :: rest => if digitRun rest = 0 then 0 else digitRun rest + 1
  | _ => 0

def digits? (text : Text) : Option Nat :=
  if !text.isEmpty && text.all Char.isDigit then some (Nat.ofDigitChars 10 text 0) else none

def unsigned? : Text → Option Nat
  | '+' :: rest => digits? rest
  | text => digits? text

def signed? : Text → Option Int
  | '-' :: rest => (digits? rest).map fun n => -(n : Int)
  | text => (unsigned? text).map Int.ofNat

/-- A row count: at most 64 bits, without a sign bit. -/
def count? (text : Text) : Option Nat :=
  (unsigned? text).filter (· < UInt64.size)

/-- An integer value: at most 64 bits, one of them for the sign. -/
def integer? (text : Text) : Option Int :=
  (signed? text).filter fun n => decide (-0x8000000000000000 ≤ n ∧ n < 0x8000000000000000)

end EntityQuery.Text
