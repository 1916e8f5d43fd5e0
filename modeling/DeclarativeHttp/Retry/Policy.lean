import DeclarativeHttp.Retry.Backoff
import DeclarativeHttp.Session

/-!
# Retry policies

A policy gives each call a retryer of its own, which says after each failure whether
the call goes on. Every time it does, fewer attempts are left.
-/

namespace DeclarativeHttp

inductive Retryer where
  | never
  | backoff (b : Backoff)
  deriving DecidableEq, Repr

namespace Retryer

def attemptsLeft : Retryer → Nat
  | never => 0
  | backoff b => b.attemptsLeft

def fresh : Retryer → Retryer
  | never => never
  | backoff b => backoff b.fresh

end Retryer

theorem Backoff.decide_attemptsLeft {now : Instant} {share : Nat → Nat} {e : Error} {b n : Backoff}
    (h : b.decide now share e = .retry n ∨ ∃ i, b.decide now share e = .sleep i n) :
    n.attemptsLeft < b.attemptsLeft := by
  unfold Backoff.decide at h
  split at h
  · simp at h
  · have hn : n = { b with attempt := b.attempt + 1 } := by
      split at h
      · split at h <;> simp_all
      · simp_all
    subst hn
    simp only [Backoff.attemptsLeft]
    omega

theorem Backoff.slept_attemptsLeft {i : Nat} {b c : Backoff} (h : b.slept i = some c) :
    c.attemptsLeft = b.attemptsLeft := by
  unfold Backoff.slept at h
  split at h
  · simp at h
  · simp only [Option.some.injEq] at h
    subst h
    rfl

namespace Retryer

inductive Verdict (r : Retryer) where
  | again (next : Retryer) (fewer : next.attemptsLeft < r.attemptsLeft)
  | over (last : Retryer)

/-- Judges a failure, perhaps after a pause. A pause that is cut short ends the call. -/
def judge (e : Error) (r : Retryer) : Run (Verdict r) :=
  match r with
  | never => return .over never
  | backoff b => do
    let s ← get
    match h : b.decide s.now s.share e with
    | .giveUp => return .over (backoff b)
    | .retry n => return .again (backoff n) (Backoff.decide_attemptsLeft (.inl h))
    | .sleep i n =>
      if ← Run.sleep i then
        match h' : n.slept i with
        | some m =>
          return .again (backoff m) (by
            simp only [attemptsLeft, Backoff.slept_attemptsLeft h']
            exact Backoff.decide_attemptsLeft (.inr ⟨i, h⟩))
        | none => Run.crash .sleptTooLong
      else return .over (backoff n)

end Retryer

structure RetryPolicy where
  fresh : Run Retryer

namespace RetryPolicy

def of (r : Retryer) : RetryPolicy := ⟨pure r.fresh⟩

end RetryPolicy

/-- Which error a caller sees when a call is given up. -/
inductive Propagation where
  /-- The retryable error itself. -/
  | none
  /-- What it was made of. -/
  | unwrap
  deriving DecidableEq, Repr

namespace Propagation

def apply : Propagation → Error → Error
  | none, e => e
  | unwrap, e => e.unwrapped

end Propagation

end DeclarativeHttp
