import DeclarativeHttp.Unicode.Direction
import DeclarativeHttp.Unicode.Joining
import DeclarativeHttp.Unicode.Normal
import DeclarativeHttp.Url.DomainForms
import DeclarativeHttp.Url.Punycode

/-!
# Domain names

A domain name in ASCII: its characters take the forms that they have in names, the name is
brought into normal form, and labels that still hold a character beyond ASCII are written in
Punycode behind `xn--`.
-/

namespace DeclarativeHttp.Domain

def isForbidden (c : Char) : Bool :=
  c.toNat ≤ 0x20 || c.toNat == 0x7F || "%#/:<>?@[\\]^|".toList.contains c

def isAscii (s : List Char) : Bool := s.all fun c => c.toNat < 0x80

/-! ## Joiners -/

/-- May a joiner stand between two texts? The first of them is in reverse. After a virama
either may; a non-joiner may also part two letters that would be joined. -/
def allowsJoiner (c : Char) (before after : List Char) : Bool :=
  before.head?.any Unicode.isVirama ||
    (c == nonJoiner && Unicode.joinsForward before && Unicode.joinsBackward after)

def joinersAllowed : List Char → List Char → Bool
  | _, [] => true
  | before, c :: after =>
    (!isJoiner c || allowsJoiner c before after) && joinersAllowed (c :: before) after

/-! ## Direction -/

def isRightward (d : Unicode.Direction) : Bool :=
  d == .leftToRight || d == .europeanNumber

def isLeftward (d : Unicode.Direction) : Bool :=
  d == .rightToLeft || d == .arabicLetter || d == .arabicNumber

def isSupple (d : Unicode.Direction) : Bool :=
  d == .europeanNumber || d == .numberSign || d == .numberSeparator || d == .numberTerminator ||
    d == .neutral || d == .joiner || d == .mark

def keepsDirection (label : List Char) : Bool :=
  match label.map Unicode.direction with
  | [] => true
  | first :: rest =>
    let rest := (rest.reverse.dropWhile (· == .mark)).reverse
    match first with
    | .leftToRight => rest.all (fun d => d == .leftToRight || isSupple d) &&
        rest.getLast?.all isRightward
    | .rightToLeft | .arabicLetter => rest.all (fun d => isLeftward d || isSupple d) &&
        rest.getLast?.all (fun d => isLeftward d || d == .europeanNumber) &&
        !(rest.contains .europeanNumber && rest.contains .arabicNumber)
    | _ => false

/-! ## Labels -/

structure Label where
  name : List Char
  written : List Char
  deriving DecidableEq, Repr

/-- The longest label that is written in Punycode, and the longest Punycode that is read. -/
def maxName : Nat := 1000

def maxCode : Nat := 2000

def punycodeMark : List Char := "xn--".toList

def isSound (name : List Char) : Bool :=
  !name.head?.any Unicode.isMark && joinersAllowed [] name

def isSettled (name : List Char) : Bool :=
  name.all (fun c => form? c == some [c]) && Unicode.normalize name == name

/-- A label of a name whose characters have taken their forms. One that is written in
Punycode must be in need of it. -/
def label? (s : List Char) : Option Label :=
  match punycodeMark.isPrefixOf? s with
  | some code =>
    if maxCode < code.length then none
    else
      match Punycode.decode code with
      | none => none
      | some name =>
        if isAscii s && !isAscii name && isSettled name && isSound name &&
            (punycodeMark.isPrefixOf? name).isNone then
          some ⟨name, s⟩
        else none
  | none =>
    if isAscii s then some ⟨s, s⟩
    else if maxName < s.length || !isSound s then none
    else some ⟨s, punycodeMark ++ Punycode.encode s⟩

/-! ## Names -/

def directionsAgree (labels : List Label) : Bool :=
  !labels.any (·.name.any fun c => 0x80 ≤ c.toNat && isLeftward (Unicode.direction c)) ||
    labels.all (keepsDirection ·.name)

/-- The name in ASCII, `none` when it has a character that no name may have or a label that
is no name. A text in ASCII is in normal form already. -/
def toAscii? (s : List Char) : Option (List Char) := do
  let s := (← s.mapM form?).flatten
  let s := if isAscii s then s else Unicode.normalize s
  if s.any isForbidden then none
  else
    let labels ← (s.splitOn '.').mapM label?
    if directionsAgree labels then some (List.intercalate ['.'] (labels.map Label.written))
    else none

end DeclarativeHttp.Domain
