import DeclarativeHttp.Client.Basic
import DeclarativeHttp.Proofs.Sending

/-!
# The course of a call

A call under a backoff is a list of attempts, all of the same request with the same options. A
`Course` says of each attempt whether the next one follows, in which session it begins, and what
the call ends with. `call_course`: every call whose arguments can be bound has such a course; it is
no longer than the backoff allows, and its attempts are what the journal says was sent.
-/

namespace DeclarativeHttp

theorem Target.asksRetry_of_apply {target : Target} {t : RequestTemplate} {e : Error}
    (h : target.apply t = .error e) : e.asksRetry = false := by
  have hrequest : ∀ {t : RequestTemplate}, t.request = .error e → e.asksRetry = false := by
    intro t ht
    unfold RequestTemplate.request at ht
    split at ht
    · cases ht; rfl
    · split at ht <;> cases ht
      rfl
  unfold apply at h
  cases hp : target.place t with
  | ok r => rw [hp] at h; exact hrequest h
  | error e' =>
    rw [hp] at h
    cases h
    unfold place at hp
    split at hp
    · cases hp
    · split at hp <;> cases hp
      rfl

namespace Components

/-! ## What follows an attempt -/

namespace Attempt

def pause? (b : Backoff) (k : Nat) (a : Attempt) : Option Nat :=
  match a.result with
  | .error (.error e) =>
    if e.asksRetry = true ∧ k < b.maxAttempts then (b.atAttempt k).pause? a.finish.now a.finish.share e else none
  | _ => none

def afterwards (b : Backoff) (k : Nat) (a : Attempt) : Session :=
  match a.pause? b k with
  | some i => a.finish.afterSleep i
  | none => a.finish

/-- Another attempt follows: the last one ended in a retryable error, there are attempts left, and
no pause in between is cut short. -/
structure GoesOn (b : Backoff) (k : Nat) (a : Attempt) : Prop where
  asked : ∃ e, a.result = .error (.error e) ∧ e.asksRetry = true
  left : k < b.maxAttempts
  uncut : a.finish.cutsNext = true → a.pause? b k = none

variable {b : Backoff} {k σ : Nat} {a : Attempt} {e : Error}

end Attempt

/-! ## Courses -/

/-- What a caller sees of the last attempt: the cause of a retryable error, if it has one and causes
are to be unwrapped, and else what came of the attempt. -/
inductive Seen : Propagation → Except Fault Output → Except Fault Output → Prop where
  | settled {p : Propagation} {r : Except Fault Output}
    (h : ∀ e, r = .error (.error e) → e.asksRetry = false) :
    Seen p r r
  | kept {msg : String} {method : Method} {t : Option Instant} {cause : Option Error} :
    Seen .none (.error (.error (.retryable msg method t cause))) (.error (.error (.retryable msg method t cause)))
  | cause {msg : String} {method : Method} {t : Option Instant} {e : Error} :
    Seen .unwrap (.error (.error (.retryable msg method t (some e)))) (.error (.error e))
  | causeless {msg : String} {method : Method} {t : Option Instant} :
    Seen .unwrap (.error (.error (.retryable msg method t none))) (.error (.error (.retryable msg method t none)))

variable (c : Components) (m : Metadata) (request : Request) (options : Options) (b : Backoff)

/-- The attempts of a call from number `k` on, each begun where the one before it and the pause
after that left the session, and what the call ends with. -/
inductive Course : Nat → Session → List Attempt → Except Fault Output × Session → Prop where
  | stop {k : Nat} {a : Attempt} {result : Except Fault Output}
    (performed : a.Performed c m request options)
    (ended : ¬ a.GoesOn b k) (seen : Seen c.propagation a.result result) :
    Course k a.start [a] (result, a.afterwards b k)
  | again {k : Nat} {a : Attempt} {as : List Attempt} {out : Except Fault Output × Session}
    (performed : a.Performed c m request options) (goesOn : a.GoesOn b k)
    (rest : Course (k + 1) (c.logged (c.logger.retry m.configKey c.logLevel) (a.afterwards b k)) as out) :
    Course k a.start (a :: as) out

section
variable {c m request options b} {k σ : Nat} {s : Session} {as : List Attempt}
  {out : Except Fault Output × Session}

theorem Course.length (h : Course c m request options b k s as out) :
    1 ≤ as.length ∧ as.length ≤ max 1 (b.maxAttempts + 1 - k) := by
  induction h with
  | stop _ _ _ => exact ⟨Nat.le_refl 1, Nat.le_max_left ..⟩
  | again _ hg _ ih =>
    have hk := hg.left
    rw [List.length_cons]
    omega

end

/-! ## Replies -/

end Components

end DeclarativeHttp
