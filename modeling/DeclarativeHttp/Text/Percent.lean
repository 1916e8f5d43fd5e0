import DeclarativeHttp.Text.Utf8

/-!
# Percent-encoding

A byte is written `%XX` with capital hexadecimal digits. Which ASCII characters
stand for themselves is up to the place in a URL; characters beyond ASCII never do.
-/

namespace DeclarativeHttp.Percent

def hexDigit (n : Nat) : Char :=
  if n < 10 then Char.ofNat (0x30 + n) else Char.ofNat (0x37 + n)

def hexValue? (n : Nat) : Option Nat :=
  if 0x30 ≤ n && n ≤ 0x39 then some (n - 0x30)
  else if 0x41 ≤ n && n ≤ 0x46 then some (n - 0x37)
  else if 0x61 ≤ n && n ≤ 0x66 then some (n - 0x57)
  else none

def encodeByte (b : UInt8) : List Char :=
  ['%', hexDigit (b.toNat / 16), hexDigit (b.toNat % 16)]

abbrev EscapeSet := Char → Bool

def controls : EscapeSet := fun c => c.toNat < 0x20 || c.toNat == 0x7F

def encodeChar (escaped : EscapeSet) (c : Char) : List Char :=
  if c.toNat < 0x80 && !escaped c then [c] else (String.utf8EncodeChar c).flatMap encodeByte

def encode (escaped : EscapeSet) (s : List Char) : List Char := s.flatMap (encodeChar escaped)

/-- Reads `%XX` as a byte; a `%` without two digits stands for itself. -/
def decode : Bytes → Bytes
  | [] => []
  | [b] => [b]
  | [b, c] => [b, c]
  | b :: h :: l :: r =>
    if b = 0x25 then
      match hexValue? h.toNat, hexValue? l.toNat with
      | some hi, some lo => UInt8.ofNat (hi * 16 + lo) :: decode r
      | _, _ => b :: decode (h :: l :: r)
    else b :: decode (h :: l :: r)

end DeclarativeHttp.Percent
