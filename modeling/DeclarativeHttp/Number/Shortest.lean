import DeclarativeHttp.Number.Binary

/-!
# Shortest decimal text

The fewest decimal digits that read back as a given binary64 number, and the
layout in which they are written.
-/

namespace DeclarativeHttp.Shortest

/-- The magnitudes that round to a positive number, as `low / den` and `high / den`;
the ends belong to them when the significand is even. -/
structure Interval where
  low : Nat
  value : Nat
  high : Nat
  den : Nat
  closed : Bool

/-- The neighbours of a power of two are nearer below than above. -/
def interval (x : Binary) : Interval :=
  let below :=
    if x.significand = Nat.pow 2 52 && x.exponent != BinaryFormat.double.minExponent then 1 else 2
  let (num, den) := Binary.ratio ⟨false, 1, x.exponent⟩
  ⟨(4 * x.significand - below) * num, 4 * x.significand * num, (4 * x.significand + 2) * num,
    4 * den, x.significand % 2 = 0⟩

def digitCount (n : Nat) : Nat := if n = 0 then 0 else (Nat.toDigits 10 n).length

def decimalExponent (num den : Nat) : Int :=
  if den ≤ num then (digitCount (num / den) : Int) - 1
  else -(digitCount ((den + num - 1) / num - 1) : Int)

structure Decimal where
  digits : Nat
  exponent : Int
  deriving DecidableEq, Repr

def Decimal.ratio (d : Decimal) : Nat × Nat :=
  if d.exponent < 0 then (d.digits, Nat.pow 10 d.exponent.natAbs)
  else (d.digits * Nat.pow 10 d.exponent.natAbs, 1)

def Interval.contains (i : Interval) (d : Decimal) : Bool :=
  let (n, m) := d.ratio
  if i.closed then i.low * m ≤ n * i.den && n * i.den ≤ i.high * m
  else i.low * m < n * i.den && n * i.den < i.high * m

/-- Of the two neighbours on one grid, the one that reads back; of two, the nearer,
and of two equally near the even one. -/
def onGrid (i : Interval) (exponent : Int) : Option Decimal :=
  let (num, den) :=
    if exponent < 0 then (i.value * Nat.pow 10 exponent.natAbs, i.den)
    else (i.value, i.den * Nat.pow 10 exponent.natAbs)
  let below : Decimal := ⟨num / den, exponent⟩
  let above : Decimal := ⟨num / den + 1, exponent⟩
  match i.contains below, i.contains above with
  | false, false => none
  | true, false => some below
  | false, true => some above
  | true, true => some ⟨roundHalfEven num den, exponent⟩

def search (i : Interval) (exponent : Int) : Nat → Decimal
  | 0 => ⟨i.value / i.den, 0⟩
  | fuel + 1 =>
    match onGrid i exponent with
    | some d => d
    | none => search i (exponent - 1) fuel

def Decimal.trim (d : Decimal) : Nat → Decimal
  | 0 => d
  | fuel + 1 =>
    if d.digits % 10 = 0 && d.digits != 0 then Decimal.trim ⟨d.digits / 10, d.exponent + 1⟩ fuel
    else d

def ofBinary (x : Binary) : Decimal :=
  let i := interval x
  let d := search i (decimalExponent i.value i.den) 18
  d.trim (digitCount d.digits)

/-- How digits are laid out: positionally between two decimal exponents, with `.0`
after a whole number, and otherwise with one digit before the point and a signed
exponent. -/
structure Layout where
  minPositional : Int
  maxPositional : Int

def zeros (n : Nat) : List Char := List.replicate n '0'

def Layout.text (l : Layout) (d : Decimal) : List Char :=
  let ds := Nat.toDigits 10 d.digits
  let k := d.exponent + ds.length - 1
  if l.minPositional ≤ k && k ≤ l.maxPositional then
    if 0 ≤ d.exponent then ds ++ zeros d.exponent.natAbs ++ ['.', '0']
    else if 0 ≤ k then
      ds.take (k.natAbs + 1) ++ '.' :: ds.drop (k.natAbs + 1)
    else ['0', '.'] ++ zeros (k.natAbs - 1) ++ ds
  else
    let mantissa :=
      match ds with
      | [] => []
      | [c] => [c]
      | c :: r => c :: '.' :: r
    mantissa ++ 'e' :: (if k < 0 then '-' else '+') :: Nat.toDigits 10 k.natAbs

def text (l : Layout) (x : Binary) : List Char :=
  let magnitude := if x.significand = 0 then ['0', '.', '0'] else l.text (ofBinary x)
  if x.negative then '-' :: magnitude else magnitude

end DeclarativeHttp.Shortest
