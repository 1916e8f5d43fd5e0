import DeclarativeHttp.Multimap
import DeclarativeHttp.Text.Basic
import DeclarativeHttp.Text.Utf8

/-!
# Response headers

Names are kept in small letters; values are bytes, which need not be text.
-/

namespace DeclarativeHttp

structure HeaderMap where
  entries : Multimap Bytes
  deriving DecidableEq, Repr

namespace HeaderMap

def empty : HeaderMap := ⟨[]⟩

def append (name : String) (value : Bytes) (h : HeaderMap) : HeaderMap :=
  ⟨h.entries.extend id (Text.lower name) [value]⟩

def ofList (pairs : List (String × Bytes)) : HeaderMap :=
  pairs.foldl (fun h p => h.append p.1 p.2) empty

def isShown (b : UInt8) : Bool := (0x20 ≤ b && b < 0x7F) || b == 0x09

def valueText? (value : Bytes) : Option String :=
  if value.all isShown then some (String.ofList (value.map fun b => Char.ofNat b.toNat)) else none

def text? (name : String) (h : HeaderMap) : Option String :=
  ((h.entries.get? id (Text.lower name)).bind List.head?).bind valueText?

/-! ## What a header may be -/

def isNameChar (c : Char) : Bool := c.isAlphanum || "!#$%&'*+-.^_`|~".toList.contains c

/-- Names have up to `2^16 - 1` characters. -/
def isName (s : String) : Bool :=
  !s.isEmpty && s.length < UInt16.size && s.toList.all isNameChar

def isValueByte (b : UInt8) : Bool := (0x20 ≤ b && b != 0x7F) || b == 0x09

end HeaderMap

end DeclarativeHttp
