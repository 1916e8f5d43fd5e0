import DeclarativeHttp.Text.Basic

/-!
# URLs

An absolute URL in its parts, and the text it is written as. The parts hold text as
it is written: escapes are already in it.
-/

namespace DeclarativeHttp

namespace Url

inductive Error where
  | emptyHost | invalidDomainName | invalidPort | invalidIpv4 | invalidIpv6
  | invalidDomainCharacter | relativeWithoutBase
  deriving DecidableEq, Repr

def Error.message : Error → String
  | emptyHost => "empty host"
  | invalidDomainName => "invalid international domain name"
  | invalidPort => "invalid port number"
  | invalidIpv4 => "invalid IPv4 address"
  | invalidIpv6 => "invalid IPv6 address"
  | invalidDomainCharacter => "invalid domain character"
  | relativeWithoutBase => "relative URL without a base"

inductive Host where
  | domain (name : List Char)
  | ipv4 (address : Nat)
  | ipv6 (pieces : List Nat)
  deriving DecidableEq, Repr

structure Authority where
  user : List Char
  password : Option (List Char)
  host : Host
  port : Option Nat
  deriving DecidableEq, Repr

/-- A path is a list of segments, each behind a slash, or text that is not divided. -/
inductive Path where
  | segments (parts : List (List Char))
  | undivided (text : List Char)
  deriving DecidableEq, Repr

end Url

structure Url where
  scheme : List Char
  authority : Option Url.Authority
  path : Url.Path
  query : Option (List Char)
  fragment : Option (List Char)
  deriving DecidableEq, Repr

namespace Url

/-! ## Text of a URL -/

def ipv4Chars (address : Nat) : List Char :=
  List.intercalate ['.'] ([24, 16, 8, 0].map fun s => Nat.toDigits 10 (address / Nat.pow 2 s % 256))

def longestZeros : List Nat → Nat → Option (Nat × Nat)
  | [], _ => none
  | p :: ps, i =>
    let run := ((p :: ps).takeWhile (· == 0)).length
    match longestZeros ps (i + 1) with
    | some (j, n) => if 2 ≤ run && n ≤ run then some (i, run) else some (j, n)
    | none => if 2 ≤ run then some (i, run) else none

def hexPieces (ps : List Nat) : List Char := List.intercalate [':'] (ps.map (Nat.toDigits 16))

def ipv6Chars (pieces : List Nat) : List Char :=
  match longestZeros pieces 0 with
  | none => hexPieces pieces
  | some (start, run) =>
    hexPieces (pieces.take start) ++ [':', ':'] ++ hexPieces (pieces.drop (start + run))

def Host.chars : Host → List Char
  | .domain name => name
  | .ipv4 address => ipv4Chars address
  | .ipv6 pieces => '[' :: ipv6Chars pieces ++ [']']

def Authority.chars (a : Authority) : List Char :=
  let password := match a.password with
    | some p => ':' :: p
    | none => []
  let userinfo := a.user ++ password
  (if userinfo.isEmpty then [] else userinfo ++ ['@']) ++ a.host.chars ++
    (match a.port with
    | some p => ':' :: Nat.toDigits 10 p
    | none => [])

def Path.chars : Path → List Char
  | .segments parts => parts.flatMap fun p => '/' :: p
  | .undivided text => text

/-- Without an authority, a path that begins with two slashes is kept from being read
as one. -/
def chars (u : Url) : List Char :=
  let path := u.path.chars
  let middle := match u.authority, path with
    | some a, _ => ['/', '/'] ++ a.chars ++ path
    | none, '/' :: '/' :: _ => ['/', '.'] ++ path
    | none, _ => path
  u.scheme ++ ':' :: middle ++
    (match u.query with
    | some q => '?' :: q
    | none => []) ++
    (match u.fragment with
    | some f => '#' :: f
    | none => [])

def text (u : Url) : String := String.ofList u.chars

end Url

end DeclarativeHttp
