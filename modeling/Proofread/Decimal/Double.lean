set_option autoImplicit false

namespace Proofread.Decimal

/-- The mantissa has 53 bits, or fewer at the least exponent. -/
structure Double where
  negative : Bool
  mantissa : Nat
  exponent : Int
deriving DecidableEq, Repr

namespace Double

def leastExponent : Int := -1074

def greatestExponent : Int := 971

def leastMantissa : Nat := 0x10000000000000

def zero : Double := ⟨false, 0, leastExponent⟩

def scaled (n : Nat) (k : Int) : Nat × Nat :=
  if 0 ≤ k then (n * Nat.pow 2 k.toNat, 1) else (n, Nat.pow 2 (-k).toNat)

def roundHalfEven (num den : Nat) : Nat :=
  let q := num / den
  let twice := 2 * (num % den)
  if den < twice || (twice == den && q % 2 == 1) then q + 1 else q

def freeExponent (num den : Nat) : Int :=
  let guess : Int := (Nat.log2 num : Int) - (Nat.log2 den : Int) - 52
  let (n, d) := scaled num (-guess)
  if n < den * d * leastMantissa then guess - 1 else guess

def ofRatio? (negative : Bool) (num den : Nat) : Option Double :=
  if num = 0 ∨ den = 0 then some { zero with negative := negative }
  else
    let exponent := max (freeExponent num den) leastExponent
    let (n, d) := scaled num (-exponent)
    let q := roundHalfEven n (den * d)
    let (mantissa, exponent) :=
      if q = 2 * leastMantissa then (leastMantissa, exponent + 1) else (q, exponent)
    if greatestExponent < exponent then none else some ⟨negative, mantissa, exponent⟩

def ratio (d : Double) : Nat × Nat :=
  scaled d.mantissa d.exponent

def times? (a : Double) (num den : Nat) : Option Double :=
  let (n, d) := a.ratio
  ofRatio? a.negative (n * num) (d * den)

def ofDecimal? (negative : Bool) (digits : Nat) (exponent : Int) : Option Double :=
  if 0 ≤ exponent then ofRatio? negative (digits * Nat.pow 10 exponent.toNat) 1
  else ofRatio? negative digits (Nat.pow 10 (-exponent).toNat)

end Double

end Proofread.Decimal
