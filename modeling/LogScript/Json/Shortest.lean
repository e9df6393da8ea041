import LogScript.Json.Double

namespace LogScript.Json

namespace Double

/-- The numbers that round to a double lie between these two, as quotients of one divisor. Both
ends belong to them if the mantissa is even. -/
structure Interval where
  low : Nat
  value : Nat
  high : Nat
  divisor : Nat
  closed : Bool
  deriving DecidableEq, Repr

/-- Halfway to the next number on either side. Below a power of two the numbers lie closer. -/
def interval (d : Double) : Interval :=
  let below := if d.mantissa = leastFull ∧ leastExponent < d.exponent then 1 else 2
  let m := 4 * d.mantissa
  let (s, q) :=
    if 0 ≤ d.exponent then (Nat.pow 2 d.exponent.toNat, 4)
    else (1, 4 * Nat.pow 2 (-d.exponent).toNat)
  ⟨(m - below) * s, m * s, (m + 2) * s, q, d.mantissa % 2 = 0⟩

/-- Whether a quotient lies in the interval. -/
def Interval.contains (i : Interval) (num den : Nat) : Bool :=
  let x := num * i.divisor
  let lo := i.low * den
  let hi := i.high * den
  if i.closed then lo ≤ x && x ≤ hi else lo < x && x < hi

/-- Digits and the power of ten in front of which the point stands: 0.digits · 10 ^ point. -/
structure Digits where
  digits : Nat
  point : Int
  deriving DecidableEq, Repr

/-- The power of ten just above a quotient. -/
def pointOf (num den : Nat) : Int :=
  if den ≤ num then ((Nat.toDigits 10 (num / den)).length : Int)
  else -(((Nat.toDigits 10 ((den - 1) / num)).length : Int) - 1)

/-- The digits on a grid of so many places that are nearest to the value, if they lie in the
interval. Halfway between two, the even ones are taken. -/
def onGrid? (i : Interval) (point : Int) (places : Nat) : Option Nat :=
  let step := point - places
  let (num, den) :=
    if 0 ≤ step then (i.value, i.divisor * Nat.pow 10 step.toNat)
    else (i.value * Nat.pow 10 (-step).toNat, i.divisor)
  let fits (n : Nat) : Bool :=
    if 0 ≤ step then i.contains (n * Nat.pow 10 step.toNat) 1
    else i.contains n (Nat.pow 10 (-step).toNat)
  let down := num / den
  let near := nearest num den
  let far := if near = down then down + 1 else down
  if fits near then some near else if fits far then some far else none

/-- The first grid with digits in the interval, from so many places on. -/
def firstGrid (i : Interval) (point : Int) : Nat → Nat → Nat × Nat
  | 0, places => (nearest i.value i.divisor, places)
  | left + 1, places =>
    match onGrid? i point places with
    | some n => (n, places)
    | none => firstGrid i point left (places + 1)

/-- The fewest digits that read back as a double other than zero. Seventeen always do. -/
def shortest (d : Double) : List Char × Int :=
  let i := d.interval
  let point := pointOf i.value i.divisor
  let (n, places) := firstGrid i point 17 1
  let ds := Nat.toDigits 10 n
  let kept := (ds.reverse.dropWhile (· == '0')).reverse
  (kept, point + ds.length - places)

/-- How a double is written: with a point from 0.00001 up to sixteen digits in front of it, and
with a signed exponent beyond. -/
def text (d : Double) : String :=
  let sign := if d.negative then "-" else ""
  if d.mantissa = 0 then sign ++ "0.0"
  else
    let (ds, point) := d.shortest
    let body : List Char :=
      if 0 < point ∧ point ≤ 16 then
        let k := point.toNat
        if ds.length ≤ k then ds ++ List.replicate (k - ds.length) '0' ++ ['.', '0']
        else ds.take k ++ '.' :: ds.drop k
      else if -5 < point ∧ point ≤ 0 then
        '0' :: '.' :: (List.replicate (-point).toNat '0' ++ ds)
      else
        let e := point - 1
        let fraction := if ds.length ≤ 1 then [] else '.' :: ds.drop 1
        let sign := if e < 0 then '-' else '+'
        ds.take 1 ++ fraction ++ 'e' :: sign :: Nat.toDigits 10 e.natAbs
    sign ++ String.ofList body

end Double

end LogScript.Json
