import DeclarativeHttp.Text.Percent

/-!
# Form encoding

Name-value pairs as `application/x-www-form-urlencoded` text: a space is `+`,
letters, digits and `*-._` stand for themselves, all other bytes are escaped.
-/

namespace DeclarativeHttp.Form

def isPlain (c : Char) : Bool := c.isAlphanum || c == '*' || c == '-' || c == '.' || c == '_'

def encodeChar (c : Char) : List Char :=
  if c = ' ' then ['+'] else Percent.encodeChar (fun c => !isPlain c) c

def encode (s : List Char) : List Char := s.flatMap encodeChar

def encodePairs (pairs : List (String × String)) : List Char :=
  List.intercalate ['&'] (pairs.map fun p => encode p.1.toList ++ '=' :: encode p.2.toList)

end DeclarativeHttp.Form
