/-!
# UTF-8

Characters to bytes and back. Reading takes one byte at a time and reports every
ill-formed stretch once, so the strict and the forgiving reader are two views of
one scan.
-/

namespace DeclarativeHttp

abbrev Bytes := List UInt8

namespace Utf8

def encode (s : List Char) : Bytes := s.flatMap String.utf8EncodeChar

def ofString (s : String) : Bytes := encode s.toList

/-- A character begun but not finished: the bits so far, how many bytes are still
to come, and the bounds of the next one. -/
structure Pending where
  value : Nat
  more : Nat
  low : Nat
  high : Nat

inductive Step where
  | done (c : Char)
  | more (p : Pending)
  | bad

/-- A byte that begins a character. The bounds on the second byte keep out overlong
forms, surrogates and numbers above `0x10FFFF`. -/
def lead (b : UInt8) : Step :=
  let n := b.toNat
  if n < 0x80 then .done (Char.ofNat n)
  else if n < 0xC2 then .bad
  else if n < 0xE0 then .more ⟨n - 0xC0, 1, 0x80, 0xBF⟩
  else if n == 0xE0 then .more ⟨0, 2, 0xA0, 0xBF⟩
  else if n == 0xED then .more ⟨0xD, 2, 0x80, 0x9F⟩
  else if n < 0xF0 then .more ⟨n - 0xE0, 2, 0x80, 0xBF⟩
  else if n == 0xF0 then .more ⟨0, 3, 0x90, 0xBF⟩
  else if n < 0xF4 then .more ⟨n - 0xF0, 3, 0x80, 0xBF⟩
  else if n == 0xF4 then .more ⟨4, 3, 0x80, 0x8F⟩
  else .bad

def follow (p : Pending) (b : UInt8) : Step :=
  let n := b.toNat
  if p.low ≤ n && n ≤ p.high then
    let value := p.value * 64 + (n - 0x80)
    if p.more ≤ 1 then .done (Char.ofNat value) else .more ⟨value, p.more - 1, 0x80, 0xBF⟩
  else .bad

/-- The characters in order, with `none` for each maximal ill-formed stretch. -/
def scan : Option Pending → Bytes → List (Option Char)
  | none, [] => []
  | some _, [] => [none]
  | none, b :: bs =>
    match lead b with
    | .done c => some c :: scan none bs
    | .more p => scan (some p) bs
    | .bad => none :: scan none bs
  | some p, b :: bs =>
    match follow p b with
    | .done c => some c :: scan none bs
    | .more q => scan (some q) bs
    | .bad =>
      match lead b with
      | .done c => none :: some c :: scan none bs
      | .more q => none :: scan (some q) bs
      | .bad => none :: none :: scan none bs

def replacement : Char := Char.ofNat 0xFFFD

def decodeLossy (bs : Bytes) : List Char := (scan none bs).map (·.getD replacement)

def decode? (bs : Bytes) : Option (List Char) := (scan none bs).mapM id

def toStringLossy (bs : Bytes) : String := String.ofList (decodeLossy bs)

def toString? (bs : Bytes) : Option String := (decode? bs).map String.ofList

def validLength (bs : Bytes) : Nat :=
  (encode (((scan none bs).takeWhile Option.isSome).map (·.getD replacement))).length

end Utf8

end DeclarativeHttp
