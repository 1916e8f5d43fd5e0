import DeclarativeHttp.Error

/-!
# Backoff

When a failed call is tried again. The pause grows by half with each attempt up to a
greatest one; a server that says when to come back is obeyed, up to the same limit.
-/

namespace DeclarativeHttp

/-- Times are in nanoseconds. -/
structure Backoff where
  period : Nat
  maxPeriod : Nat
  /-- How often a call is tried, the first time included. -/
  maxAttempts : Nat
  /-- The attempt under way. -/
  attempt : Nat
  sleptFor : Nat
  /-- Is the pause cut to a random share? -/
  jitter : Bool
  deriving DecidableEq, Repr

namespace Backoff

def new (period maxPeriod maxAttempts : Nat) : Backoff :=
  ⟨period, maxPeriod, maxAttempts, 1, 0, false⟩

def default : Backoff := new 100000000 1000000000 5

def fresh (b : Backoff) : Backoff := { b with attempt := 1, sleptFor := 0 }

def grow (limit : Nat) : Nat → Nat → Nat
  | 0, nanos => nanos
  | n + 1, nanos => if nanos = 0 || limit ≤ nanos then nanos else grow limit n (nanos * 3 / 2)

/-- The pause after the attempt under way; one below the limit is counted in a word. -/
def interval (b : Backoff) : Nat :=
  let nanos := grow b.maxPeriod (b.attempt - 1) b.period
  if b.maxPeriod ≤ nanos then b.maxPeriod else nanos % UInt64.size

def portion (share : Nat → Nat) (interval : Nat) : Nat :=
  max (interval / 2) (min (share interval) interval)

inductive Decision where
  | giveUp
  | retry (next : Backoff)
  | sleep (interval : Nat) (next : Backoff)
  deriving DecidableEq, Repr

/-- A call that was tried often enough is given up. An instant that is past needs no
pause. -/
def decide (now : Instant) (share : Nat → Nat) (e : Error) (b : Backoff) : Decision :=
  if b.maxAttempts ≤ b.attempt then .giveUp
  else
    let next := { b with attempt := b.attempt + 1 }
    match e.retryAfter? with
    | some t => if t < now then .retry next else .sleep (min (t - now).toNat b.maxPeriod) next
    | none => .sleep (if b.jitter then portion share b.interval else b.interval) next

def maxDuration : Nat := UInt64.size * 1000000000 - 1

/-- Counts a pause that came to its end, as far as there is room. -/
def slept (interval : Nat) (b : Backoff) : Option Backoff :=
  if maxDuration < b.sleptFor + interval then none
  else some { b with sleptFor := b.sleptFor + interval }

def attemptsLeft (b : Backoff) : Nat := b.maxAttempts - b.attempt

end Backoff

end DeclarativeHttp
