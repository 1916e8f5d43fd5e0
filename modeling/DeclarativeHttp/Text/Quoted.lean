import DeclarativeHttp.Unicode.Category

/-!
# Quoted text in messages

A string as it stands in a message: in double quotes, with escapes for what would
not be seen there.
-/

namespace DeclarativeHttp.Text

def isUnseen (c : Char) : Bool :=
  if c.toNat < 0x80 then c.toNat < 0x20 || c.toNat == 0x7F
  else Unicode.signless.contains c || Unicode.nonspacingMarks.contains c ||
    Unicode.extenders.contains c || Unicode.fillers.contains c

def quoteChar (c : Char) : List Char :=
  if c = '"' then ['\\', '"']
  else if c = '\\' then ['\\', '\\']
  else if c = '\n' then ['\\', 'n']
  else if c = '\r' then ['\\', 'r']
  else if c = '\t' then ['\\', 't']
  else if c.toNat = 0 then ['\\', '0']
  else if isUnseen c then ['\\', 'u', '\x7b'] ++ Nat.toDigits 16 c.toNat ++ ['\x7d']
  else [c]

def quoted (s : String) : String := String.ofList ('"' :: s.toList.flatMap quoteChar ++ ['"'])

end DeclarativeHttp.Text
