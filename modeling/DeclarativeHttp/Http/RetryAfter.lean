import DeclarativeHttp.Http.Date
import DeclarativeHttp.Http.HeaderMap

/-!
# Retry-After

The instant from which on a server wants to be asked again: a number of seconds from
now, or a date.
-/

namespace DeclarativeHttp

/-- Nanoseconds since the start of 1970. -/
abbrev Instant := Int

namespace RetryAfter

def second : Nat := 1000000000

def lastSecond : Nat := 0x7FFFFFFFFFFFFFFF

/-- A number of seconds: digits, perhaps behind a plus sign, below `2^64`. -/
def wholeSeconds? (s : List Char) : Option Nat :=
  let s := match s with
    | '+' :: r => r
    | r => r
  if s.isEmpty || !s.all Char.isDigit then none
  else
    let n := s.foldl (fun n c => n * 10 + (c.toNat - 0x30)) 0
    if n < UInt64.size then some n else none

def delaySeconds? (s : List Char) : Option Nat :=
  match Text.splitFirst '.' s with
  | some (whole, fraction) => if fraction.all (· == '0') then wholeSeconds? whole else none
  | none => wholeSeconds? s

def later? (now : Instant) (seconds : Nat) : Option Instant :=
  if now / second + seconds ≤ lastSecond then some (now + seconds * second) else none

def instant? (now : Instant) (value : List Char) : Option Instant :=
  let value := Text.trim value
  match delaySeconds? value with
  | some n => later? now n
  | none => (HttpDate.parse? value).map fun d => ((d.seconds * second : Nat) : Int)

def ofHeaders (now : Instant) (h : HeaderMap) : Option Instant :=
  (h.text? "retry-after").bind fun v => instant? now v.toList

end RetryAfter

end DeclarativeHttp
