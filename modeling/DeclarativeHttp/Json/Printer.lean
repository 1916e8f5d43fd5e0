import DeclarativeHttp.Json.Basic
import DeclarativeHttp.Number.Shortest

/-!
# JSON text of a value

The compact form: no blanks, members in order of their names.
-/

namespace DeclarativeHttp.Json

/-- Numbers have at most one place before the point from `10^16` on and below `10^-5`. -/
def numberLayout : Shortest.Layout := ⟨-5, 15⟩

def Number.chars : Number → List Char
  | .natural n => Nat.toDigits 10 n
  | .negative n => '-' :: Nat.toDigits 10 n
  | .binary x => Shortest.text numberLayout x

def escapeChar (c : Char) : List Char :=
  if c = '"' then ['\\', '"']
  else if c = '\\' then ['\\', '\\']
  else if c = '\n' then ['\\', 'n']
  else if c = '\r' then ['\\', 'r']
  else if c = '\t' then ['\\', 't']
  else if c.toNat = 0x8 then ['\\', 'b']
  else if c.toNat = 0xC then ['\\', 'f']
  else if c.toNat < 0x20 then
    ['\\', 'u', '0', '0', Nat.digitChar (c.toNat / 16), Nat.digitChar (c.toNat % 16)]
  else [c]

def quote (s : String) : List Char := '"' :: s.toList.flatMap escapeChar ++ ['"']

mutual

def chars : Json → List Char
  | .null => "null".toList
  | .bool b => if b then "true".toList else "false".toList
  | .num n => n.chars
  | .str s => quote s
  | .arr items => '[' :: itemChars items
  | .obj members => '\x7b' :: memberChars members

def itemChars : List Json → List Char
  | [] => [']']
  | [v] => v.chars ++ [']']
  | v :: w :: r => v.chars ++ ',' :: itemChars (w :: r)

def memberChars : List (String × Json) → List Char
  | [] => ['\x7d']
  | [(n, v)] => quote n ++ ':' :: v.chars ++ ['\x7d']
  | (n, v) :: m :: r => quote n ++ ':' :: v.chars ++ ',' :: memberChars (m :: r)

end

def text (v : Json) : String := String.ofList v.chars

end DeclarativeHttp.Json
