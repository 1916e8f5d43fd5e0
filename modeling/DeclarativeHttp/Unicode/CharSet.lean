import DeclarativeHttp.Text.Basic

/-!
# Sets of characters

A set of characters is kept as ranges of their numbers. A table of one is written in lines of
hexadecimal ranges such as `300-36F`; a number alone is a range of one.
-/

namespace DeclarativeHttp

def hexNumber (s : List Char) : Nat :=
  s.foldl (fun n c => n * 16 + (if c.isDigit then c.toNat - 0x30 else c.toNat - 0x37)) 0

structure CodeRange where
  first : Nat
  last : Nat
  deriving DecidableEq, Repr

namespace CodeRange

def contains (r : CodeRange) (n : Nat) : Bool := r.first ≤ n && n ≤ r.last

def ofText (s : List Char) : CodeRange :=
  match Text.splitFirst '-' s with
  | some (a, b) => ⟨hexNumber a, hexNumber b⟩
  | none => ⟨hexNumber s, hexNumber s⟩

end CodeRange

structure CharSet where
  ranges : List CodeRange
  deriving DecidableEq, Repr

namespace CharSet

def contains (s : CharSet) (c : Char) : Bool := s.ranges.any (·.contains c.toNat)

def ofLines (lines : List String) : CharSet :=
  ⟨lines.flatMap fun l => (l.toList.splitOn ' ').map CodeRange.ofText⟩

end CharSet

end DeclarativeHttp
