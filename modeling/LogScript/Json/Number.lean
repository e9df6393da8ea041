import LogScript.Json.Shortest

namespace LogScript.Json

/-- A whole number is kept exactly if it fits in 64 bits. -/
inductive Number where
  | integer (n : Int)
  | double (d : Double)
  deriving DecidableEq, Repr

namespace Number

def text : Number → String
  | integer n => n.repr
  | double d => d.text

end Number

structure Numeral where
  negative : Bool
  whole : List Char
  /-- The digits behind the point; a number without a point has none. -/
  fraction : List Char
  exponent : Option Int
  deriving DecidableEq, Repr

namespace Numeral

/-- The greatest whole number that is kept exactly. -/
def greatest : Nat := 18446744073709551615

/-- The least whole number that is kept exactly. -/
def least : Int := -9223372036854775808

/-- A row of digits put behind the digits of a number, as long as they fit in 64 bits. The result
is the number and how many of the digits fit. -/
def absorb : Nat → List Char → Nat × Nat
  | n, [] => (n, 0)
  | n, c :: cs =>
    let m := 10 * n + (c.toNat - 48)
    if m ≤ greatest then ((absorb m cs).1, (absorb m cs).2 + 1) else (n, 0)

/-- A whole number. With a sign, zero and what does not fit are doubles. -/
def wholeValue? (negative : Bool) (n : Nat) : Option Number :=
  if !negative then some (.integer n)
  else if n ≠ 0 ∧ least ≤ -(n : Int) then some (.integer (-n))
  else (Double.ofDecimal? true n 0).map .double

/-- The number that is written; nothing if it is too great. Digits of the whole part that do not
fit count as a power of ten; those of the fraction do not count. -/
def value? (x : Numeral) : Option Number :=
  let (n, count) := absorb 0 x.whole
  let power : Int := x.whole.length - count
  if x.fraction = [] ∧ x.exponent = none ∧ power = 0 then wholeValue? x.negative n
  else
    let (n, count) := absorb n x.fraction
    (Double.ofDecimal? x.negative n (power - count + x.exponent.getD 0)).map .double

end Numeral

end LogScript.Json
