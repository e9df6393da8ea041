namespace LogScript.Json

/-- The number mantissa · 2 ^ exponent without its sign. The mantissa has at most 53 bits; it has
fewer only for the least exponent. -/
structure Double where
  negative : Bool
  mantissa : Nat
  exponent : Int
  deriving DecidableEq, Repr

namespace Double

def leastExponent : Int := -1074

def greatestExponent : Int := 971

/-- The least mantissa of 53 bits. -/
def leastFull : Nat := 4503599627370496

/-- Zero, which has a sign as well. -/
def zero (negative : Bool) : Double := ⟨negative, 0, leastExponent⟩

/-- A quotient rounded to a whole number, from halfway to the even one. -/
def nearest (num den : Nat) : Nat :=
  let q := num / den
  let r := num % den
  if den < 2 * r ∨ (2 * r = den ∧ q % 2 = 1) then q + 1 else q

/-- A quotient divided by a power of two and rounded to a whole number. -/
def scaled (num den : Nat) (e : Int) : Nat :=
  if 0 ≤ e then nearest num (den * Nat.pow 2 e.toNat) else nearest (num * Nat.pow 2 (-e).toNat) den

/-- The exponent of the highest bit of a quotient. -/
def topBit (num den : Nat) : Int :=
  let t := (num.log2 : Int) - den.log2
  let reached := if 0 ≤ t then den * Nat.pow 2 t.toNat ≤ num else den ≤ num * Nat.pow 2 (-t).toNat
  if reached then t else t - 1

/-- The number nearest to a quotient; nothing if it is too great. -/
def ofQuotient? (negative : Bool) (num den : Nat) : Option Double :=
  if num = 0 then some (zero negative)
  else
    let e := max leastExponent (topBit num den - 52)
    let m := scaled num den e
    let (m, e) := if m = 2 * leastFull then (leastFull, e + 1) else (m, e)
    if greatestExponent < e then none else some ⟨negative, m, e⟩

/-- A number as a quotient, without its sign. -/
def quotient (d : Double) : Nat × Nat :=
  if 0 ≤ d.exponent then (d.mantissa * Nat.pow 2 d.exponent.toNat, 1)
  else (d.mantissa, Nat.pow 2 (-d.exponent).toNat)

/-- A power of ten, as a quotient of what it is rounded to. -/
def powerOfTen (k : Nat) : Nat × Nat :=
  match ofQuotient? false (Nat.pow 10 k) 1 with
  | some d => d.quotient
  | none => (Nat.pow 10 k, 1)

/-- The number multiplied by a power of ten; nothing if the product is too great. -/
def timesTen? (d : Double) (k : Nat) : Option Double :=
  let (n, m) := d.quotient
  let (p, q) := powerOfTen k
  ofQuotient? d.negative (n * p) (m * q)

/-- The number divided by a power of ten. -/
def overTen (d : Double) (k : Nat) : Double :=
  let (n, m) := d.quotient
  let (p, q) := powerOfTen k
  (ofQuotient? d.negative (n * q) (m * p)).getD (zero d.negative)

/-- The greatest power of ten that a number can be. -/
def greatestPower : Nat := 308

/-- Divides by a power of ten, in steps of the greatest one that is a number itself. -/
def shrink (d : Double) (k : Nat) : Double :=
  if k ≤ greatestPower then d.overTen k
  else if d.mantissa = 0 then d
  else shrink (d.overTen greatestPower) (k - greatestPower)
termination_by k
decreasing_by simp only [greatestPower] at *; omega

/-- The number with given digits and a power of ten behind them. The digits and the power are
rounded before they are multiplied; nothing if the product is too great. -/
def ofDecimal? (negative : Bool) (digits : Nat) (power : Int) : Option Double :=
  match ofQuotient? negative digits 1 with
  | none => none
  | some d =>
    if power < 0 then some (d.shrink (-power).toNat)
    else if power.toNat ≤ greatestPower then d.timesTen? power.toNat
    else if d.mantissa = 0 then some d
    else none

end Double

end LogScript.Json
