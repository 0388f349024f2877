import Proofread.Decimal.Double

set_option autoImplicit false

namespace Proofread.Decimal

structure Digits where
  digits : Nat
  exponent : Int
deriving DecidableEq, Repr

/-- The quotients between which all numbers round to the same mantissa, over one denominator, and
whether the ends belong to them. -/
structure Interval where
  low : Nat
  value : Nat
  high : Nat
  den : Nat
  closed : Bool

namespace Interval

def ofDouble (d : Double) : Interval :=
  let (unit, den) := Double.scaled 1 d.exponent
  let value := 4 * d.mantissa * unit
  let below :=
    if d.mantissa = Double.leastMantissa ∧ d.exponent ≠ Double.leastExponent then unit else 2 * unit
  ⟨value - below, value, value + 2 * unit, 4 * den, d.mantissa % 2 == 0⟩

def admits (i : Interval) (num den : Nat) : Bool :=
  let n := num * i.den
  if i.closed then i.low * den ≤ n && n ≤ i.high * den
  else i.low * den < n && n < i.high * den

def power (n : Nat) (k : Int) : Nat × Nat :=
  if 0 ≤ k then (n * Nat.pow 10 k.toNat, 1) else (n, Nat.pow 10 (-k).toNat)

/-- The point of the grid of step `10 ^ k` that lies inside and is nearest to the value. -/
def gridPoint? (i : Interval) (k : Int) : Option Nat :=
  let (stepNum, stepDen) := power 1 k
  let floor := (i.value * stepDen) / (i.den * stepNum)
  let inside (n : Nat) := i.admits (n * stepNum) stepDen
  let twice := 2 * (i.value * stepDen) - 2 * floor * (i.den * stepNum)
  let upperNearer := i.den * stepNum < twice ||
    (twice == i.den * stepNum && floor % 2 == 1)
  if inside floor && inside (floor + 1) then some (if upperNearer then floor + 1 else floor)
  else if inside floor then some floor
  else if inside (floor + 1) then some (floor + 1)
  else none

def magnitude (i : Interval) : Int :=
  let guess : Int := ((Nat.log2 i.value : Int) - (Nat.log2 i.den : Int)) * 30103 / 100000
  let reaches (p : Int) : Bool :=
    let (num, den) := power 1 p
    num * i.den ≤ i.value * den
  if reaches (guess + 1) then guess + 2
  else if reaches guess then guess + 1
  else if reaches (guess - 1) then guess
  else guess - 1

def firstGrid (i : Interval) (k : Int) : Nat → Digits
  | 0 => ⟨(i.gridPoint? k).getD 0, k⟩
  | n + 1 =>
      match i.gridPoint? k with
      | some digits => ⟨digits, k⟩
      | none => firstGrid i (k - 1) n

end Interval

def shortest (d : Double) : Digits :=
  if d.mantissa = 0 then ⟨0, 0⟩
  else
    let interval := Interval.ofDouble d
    interval.firstGrid (interval.magnitude - 1) 17

structure Layout where
  leastPositional : Int
  greatestPositional : Int
  plusSign : Bool

/-- Positional from 1e-5 up to but not including 1e16, with a fraction in any case; otherwise
scientific with a signed exponent. -/
def jsonLayout : Layout := ⟨-5, 15, true⟩

def zeros (n : Nat) : String :=
  String.ofList (List.replicate n '0')

def stripZeros : List Char → List Char
  | [] => []
  | c :: rest =>
      match stripZeros rest with
      | [] => if c = '0' then [] else [c]
      | kept => c :: kept

def significant (n : Nat) : List Char :=
  match stripZeros (toString n).toList with
  | [] => ['0']
  | kept => kept

def Layout.render (layout : Layout) (d : Double) : String :=
  let sign := if d.negative then "-" else ""
  if d.mantissa = 0 then sign ++ "0.0"
  else
    let short := shortest d
    let all := (toString short.digits).toList
    let lead : Int := short.exponent + (all.length : Int) - 1
    let digits := significant short.digits
    let count := digits.length
    let body :=
      if layout.leastPositional ≤ lead && lead ≤ layout.greatestPositional then
        if lead < 0 then "0." ++ zeros (-lead - 1).toNat ++ String.ofList digits
        else
          let whole := lead.toNat + 1
          if count ≤ whole then String.ofList digits ++ zeros (whole - count) ++ ".0"
          else String.ofList (digits.take whole) ++ "." ++ String.ofList (digits.drop whole)
      else
        let fraction := if count ≤ 1 then "" else "." ++ String.ofList (digits.drop 1)
        let exponentSign := if lead < 0 then "-" else if layout.plusSign then "+" else ""
        String.ofList (digits.take 1) ++ fraction ++ "e" ++ exponentSign ++ toString lead.natAbs
    sign ++ body

end Proofread.Decimal
