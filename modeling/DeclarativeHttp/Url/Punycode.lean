import DeclarativeHttp.Text.Basic

/-!
# Punycode

Characters beyond ASCII written in letters and digits: the ASCII characters first,
then, for each other one in increasing order, how far on from the last it stands.
-/

namespace DeclarativeHttp.Punycode

def digitChar (d : Nat) : Char :=
  if d < 26 then Char.ofNat (0x61 + d) else Char.ofNat (0x30 + (d - 26))

def digitValue? (c : Char) : Option Nat :=
  if c.isLower then some (c.toNat - 0x61)
  else if c.isUpper then some (c.toNat - 0x41)
  else if c.isDigit then some (c.toNat - 0x30 + 26)
  else none

/-- The digits from which on a number ends, by place and bias. -/
def threshold (place bias : Nat) : Nat :=
  if place ≤ bias then 1 else if bias + 26 ≤ place then 26 else place - bias

def shrink : Nat → Nat → Nat → Nat × Nat
  | 0, delta, k => (delta, k)
  | fuel + 1, delta, k => if 455 < delta then shrink fuel (delta / 35) (k + 36) else (delta, k)

def adapt (delta count : Nat) (first : Bool) : Nat :=
  let delta := if first then delta / 700 else delta / 2
  let (delta, k) := shrink delta (delta + delta / count) 0
  k + 36 * delta / (delta + 38)

def numberDigits (bias : Nat) : Nat → Nat → Nat → List Char
  | 0, _, _ => []
  | fuel + 1, place, q =>
    let t := threshold place bias
    if q < t then [digitChar q]
    else
      digitChar (t + (q - t) % (36 - t)) ::
        numberDigits bias fuel (place + 36) ((q - t) / (36 - t))

structure State where
  out : List Char
  delta : Nat
  bias : Nat
  handled : Nat

def State.pass (basic code : Nat) (st : State) (c : Char) : State :=
  if c.toNat < code then { st with delta := st.delta + 1 }
  else if c.toNat = code then
    { out := st.out ++ numberDigits st.bias (st.delta + 1) 36 st.delta, delta := 0,
      bias := adapt st.delta (st.handled + 1) (st.handled = basic), handled := st.handled + 1 }
  else st

def encodeCodes (s : List Char) (basic : Nat) : Nat → List Nat → State → State
  | _, [], st => st
  | last, code :: codes, st =>
    let st := { st with delta := st.delta + (code - last) * (st.handled + 1) }
    let st := s.foldl (State.pass basic code) st
    encodeCodes s basic (code + 1) codes { st with delta := st.delta + 1 }

def insertCode (n : Nat) : List Nat → List Nat
  | [] => [n]
  | m :: r => if n < m then n :: m :: r else if n = m then m :: r else m :: insertCode n r

def encode (s : List Char) : List Char :=
  let basic := s.filter fun c => c.toNat < 0x80
  let codes := (s.filter fun c => 0x80 ≤ c.toNat).foldl (fun l c => insertCode c.toNat l) []
  let start := if basic.isEmpty then [] else basic ++ ['-']
  (encodeCodes s basic.length 0x80 codes ⟨start, 0, 72, basic.length⟩).out

/-- Numbers are counted in 32 bits. -/
def word? (n : Nat) : Option Nat := if n < UInt32.size then some n else none

def readNumber (bias : Nat) : Nat → Nat → Nat → List Char → Option (Nat × List Char)
  | _, _, _, [] => none
  | place, weight, i, c :: r => do
    let d ← digitValue? c
    let i ← word? (i + d * weight)
    let t := threshold place bias
    if d < t then some (i, r)
    else do
      let weight ← word? (weight * (36 - t))
      readNumber bias (place + 36) weight i r

def decodeNumbers : Nat → Nat → Nat → Nat → List Char → List Char → Option (List Char)
  | _, _, _, _, out, [] => some out
  | 0, _, _, _, _, _ => none
  | fuel + 1, code, i, bias, out, s => do
    let (j, r) ← readNumber bias 36 1 i s
    let count := out.length + 1
    let code := code + j / count
    let place := j % count
    if 0x10FFFF < code || (0xD800 ≤ code && code ≤ 0xDFFF) then none
    else
      decodeNumbers fuel code (place + 1) (adapt (j - i) count (i = 0))
        (out.take place ++ Char.ofNat code :: out.drop place) r

def splitLastHyphen (s : List Char) : List Char × List Char :=
  match Text.splitFirst '-' s.reverse with
  | some (after, b :: before) => ((b :: before).reverse, after.reverse)
  | some (_, []) | none => ([], s)

def decode (s : List Char) : Option (List Char) :=
  let (basic, rest) := splitLastHyphen s
  if basic.any (fun c => 0x80 ≤ c.toNat) then none
  else decodeNumbers (rest.length + 1) 0x80 0 72 basic rest

end DeclarativeHttp.Punycode
