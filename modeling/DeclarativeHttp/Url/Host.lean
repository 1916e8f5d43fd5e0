import DeclarativeHttp.Text.Percent
import DeclarativeHttp.Url.Basic
import DeclarativeHttp.Url.Domain

/-!
# Hosts

A host in brackets is an IPv6 address. In the schemes of the web any other host is
a domain name, or, when its last label is a number, an IPv4 address. In other
schemes it is kept as it is written.
-/

namespace DeclarativeHttp.Url

/-! ## IPv4 -/

def digitsValue? (radix : Nat) (s : List Char) : Option Nat :=
  s.foldlM (fun n c => do
    let d ← Percent.hexValue? c.toNat
    if d < radix then some (n * radix + d) else none) 0

def ipv4Number? : List Char → Option Nat
  | [] => none
  | '0' :: 'x' :: r | '0' :: 'X' :: r => digitsValue? 16 r
  | ['0'] => some 0
  | '0' :: r => digitsValue? 8 r
  | r => digitsValue? 10 r

/-- Does a name end in a label that is a number? One empty label may follow it. -/
def endsInNumber (name : List Char) : Bool :=
  let labels := (name.splitOn '.').reverse
  let last := match labels with
    | [] :: l :: _ => some l
    | [[]] => none
    | l :: _ => some l
    | [] => none
  match last with
  | none => false
  | some l => (!l.isEmpty && l.all Char.isDigit) || (ipv4Number? l).isSome

/-- Up to four numbers; the last one fills the bytes that the others leave. -/
def ipv4? (name : List Char) : Except Error Nat :=
  let labels := name.splitOn '.'
  let labels := if labels.getLast? == some [] then labels.dropLast else labels
  if 4 < labels.length then .error .invalidIpv4
  else
    match labels.mapM ipv4Number? with
    | none => .error .invalidIpv4
    | some numbers =>
      match numbers.reverse with
      | [] => .error .invalidIpv4
      | last :: front =>
        if Nat.pow 256 (4 - front.length) ≤ last || front.any (255 < ·) then .error .invalidIpv4
        else .ok (front.reverse.zipIdx.foldl (fun a (n, i) => a + n * Nat.pow 256 (3 - i)) last)

/-! ## IPv6 -/

def hexPiece : Nat → Nat → List Char → Nat × Nat × List Char
  | 0, value, s => (value, 0, s)
  | _ + 1, value, [] => (value, 0, [])
  | n + 1, value, c :: r =>
    match Percent.hexValue? c.toNat with
    | some d => let (v, k, r) := hexPiece n (value * 16 + d) r; (v, k + 1, r)
    | none => (value, 0, c :: r)

def byteDigits : Option Nat → List Char → Option (Nat × List Char)
  | none, c :: r => if c.isDigit then byteDigits (some (c.toNat - 0x30)) r else none
  | none, [] => none
  | some n, c :: r =>
    if c.isDigit then
      let m := n * 10 + (c.toNat - 0x30)
      if n = 0 || 255 < m then none else byteDigits (some m) r
    else some (n, c :: r)
  | some n, [] => some (n, [])

def embeddedIpv4? (s : List Char) : Option (Nat × Nat) := do
  let (a, r) ← byteDigits none s
  let r ← ['.'].isPrefixOf? r
  let (b, r) ← byteDigits none r
  let r ← ['.'].isPrefixOf? r
  let (c, r) ← byteDigits none r
  let r ← ['.'].isPrefixOf? r
  let (d, r) ← byteDigits none r
  if r.isEmpty then some (a * 256 + b, c * 256 + d) else none

/-- Pieces so far and, behind a `::`, how many of them stand before it. -/
structure Ipv6State where
  pieces : List Nat
  gap : Option Nat

def Ipv6State.count (st : Ipv6State) : Nat := st.pieces.length + if st.gap.isSome then 1 else 0

def ipv6Pieces : Nat → Ipv6State → List Char → Option Ipv6State
  | 0, _, _ => none
  | _ + 1, st, [] => some st
  | fuel + 1, st, c :: r =>
    if 8 ≤ st.count then none
    else if c = ':' then
      if st.gap.isSome then none
      else ipv6Pieces fuel { st with gap := some st.pieces.length } r
    else
      let (value, count, rest) := hexPiece 4 0 (c :: r)
      match rest with
      | '.' :: _ =>
        if count = 0 || 6 < st.count then none
        else (embeddedIpv4? (c :: r)).map fun (a, b) => { st with pieces := st.pieces ++ [a, b] }
      | ':' :: [] => none
      | ':' :: rest =>
        if count = 0 then none else ipv6Pieces fuel { st with pieces := st.pieces ++ [value] } rest
      | [] => if count = 0 then none else some { st with pieces := st.pieces ++ [value] }
      | _ => none

/-- Eight pieces; `::` stands for as many zeros as are missing. -/
def ipv6? (s : List Char) : Except Error (List Nat) :=
  let start := match s with
    | ':' :: ':' :: r => some (Ipv6State.mk [] (some 0), r)
    | ':' :: _ => none
    | r => some (⟨[], none⟩, r)
  let result := start.bind fun (st, r) => ipv6Pieces (s.length + 1) st r
  match result with
  | none => .error .invalidIpv6
  | some ⟨pieces, gap⟩ =>
    match gap with
    | none => if pieces.length = 8 then .ok pieces else .error .invalidIpv6
    | some g =>
      if 8 < pieces.length then .error .invalidIpv6
      else .ok (pieces.take g ++ List.replicate (8 - pieces.length) 0 ++ pieces.drop g)

/-! ## Hosts -/

def bracketed? (s : List Char) : Option (Except Error Host) :=
  match s with
  | '[' :: r =>
    some (if r.getLast? == some ']' then (ipv6? r.dropLast).map .ipv6 else .error .invalidIpv6)
  | _ => none

def Host.parse (s : List Char) : Except Error Host :=
  match bracketed? s with
  | some h => h
  | none =>
    match Utf8.decode? (Percent.decode (Utf8.encode s)) with
    | none => .error .invalidDomainName
    | some name =>
      match Domain.toAscii? name with
      | none => .error .invalidDomainName
      | some name =>
        if name.isEmpty then .error .emptyHost
        else if endsInNumber name then (ipv4? name).map .ipv4
        else .ok (.domain name)

def isForbiddenInHost (c : Char) : Bool :=
  c.toNat = 0 || "\t\n\r #/:<>?@[\\]^|".toList.contains c

def Host.parseOpaque (s : List Char) : Except Error Host :=
  match bracketed? s with
  | some h => h
  | none =>
    if s.any isForbiddenInHost then .error .invalidDomainCharacter
    else .ok (.domain (Percent.encode Percent.controls s))

end DeclarativeHttp.Url
