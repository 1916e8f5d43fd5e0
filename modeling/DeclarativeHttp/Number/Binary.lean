/-!
# Binary floating point

Finite numbers `± m · 2^e` of a format with bounded precision, and rounding of a
quotient of naturals to the nearest of them. All arithmetic is exact on `Nat`.
-/

namespace DeclarativeHttp

structure BinaryFormat where
  precision : Nat
  minExponent : Int
  maxExponent : Int

namespace BinaryFormat

def double : BinaryFormat := ⟨53, -1074, 971⟩

def single : BinaryFormat := ⟨24, -149, 104⟩

end BinaryFormat

/-- The number `± significand · 2^exponent`. -/
structure Binary where
  negative : Bool
  significand : Nat
  exponent : Int
  deriving DecidableEq, Repr

namespace Binary

def ratio (x : Binary) : Nat × Nat :=
  if x.exponent < 0 then (x.significand, Nat.pow 2 x.exponent.natAbs)
  else (x.significand * Nat.pow 2 x.exponent.natAbs, 1)

def zero (f : BinaryFormat) (negative : Bool) : Binary := ⟨negative, 0, f.minExponent⟩

end Binary

def roundHalfEven (num den : Nat) : Nat :=
  let q := num / den
  let r := num % den
  if 2 * r < den then q
  else if den < 2 * r then q + 1
  else if q % 2 = 0 then q else q + 1

namespace BinaryFormat

/-- `num / (den · 2^e)` as a quotient of naturals. -/
def scale (num den : Nat) (e : Int) : Nat × Nat :=
  if e < 0 then (num * Nat.pow 2 e.natAbs, den) else (num, den * Nat.pow 2 e.natAbs)

def exponentFor (f : BinaryFormat) (num den : Nat) : Int :=
  let guess := max ((Nat.log2 num : Int) - Nat.log2 den - f.precision) f.minExponent
  let (n, d) := scale num den guess
  if d * Nat.pow 2 f.precision ≤ n then guess + 1 else guess

/-- The number of the format nearest to `± num / den`, `none` when it is too large. -/
def round (f : BinaryFormat) (negative : Bool) (num den : Nat) : Option Binary :=
  if num = 0 then some (Binary.zero f negative)
  else
    let e := f.exponentFor num den
    let (n, d) := scale num den e
    let m := roundHalfEven n d
    let (m, e) := if m = Nat.pow 2 f.precision then (Nat.pow 2 (f.precision - 1), e + 1) else (m, e)
    if f.maxExponent < e then none else some ⟨negative, m, e⟩

end BinaryFormat

def Binary.round (f : BinaryFormat) (x : Binary) : Option Binary :=
  f.round x.negative x.ratio.1 x.ratio.2

end DeclarativeHttp
