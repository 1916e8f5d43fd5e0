import DeclarativeHttp.Client.Call
import DeclarativeHttp.Proofs.Backoff
import DeclarativeHttp.Proofs.Stock

/-!
# Attempts of a call

One attempt executes the transport once. The loop of a call is read off here
case by case: an attempt that succeeds or fails for good ends it, and one
that asks for a retry is put to the retryer, which ends it or lets the next
attempt follow. All attempts of a call, under any retryer, are `Tries`.
-/

namespace DeclarativeHttp

/-! ## Replies -/

namespace Transport

variable {request : Request} {options : Options} {s : Session}

theorem replies_nil (h : s.replies = []) : (replies.execute request options).on s =
    (.error (.error (.io "connection refused")), { s with journal := s.journal ++ [.sent request options] }) := by
  rw [replies, Run.on_bind_ok (Run.on_note _ _), Run.on_bind_ok (Run.on_get _)]
  simp only [h]
  rfl

theorem replies_cons {reply : Reply} {rest : List Reply} (h : s.replies = reply :: rest) :
    (replies.execute request options).on s = ((reply request).mapError Fault.error,
      { s with journal := s.journal ++ [.sent request options], replies := rest }) := by
  rw [replies, Run.on_bind_ok (Run.on_note _ _), Run.on_bind_ok (Run.on_get _)]
  simp only [h]
  rw [Run.on_bind_ok (Run.on_set _ _)]
  cases reply request <;> rfl

end Transport

namespace Components

variable (c : Components) (m : Metadata)

def logged (x : Quiet Unit) (s : Session) : Session := if c.logLevel.isOn then (x.run s).2 else s

theorem on_onLevel (x : Quiet Unit) (s : Session) :
    (c.onLevel x).on s = (.ok (), c.logged x s) := by
  unfold onLevel logged
  split <;> rfl

/-! ## The loop -/

section
variable {c m} {once : Run Output} {r : Retryer} {s t u : Session}

theorem attempts_ok {o : Output} (h : once.on s = (.ok o, t)) :
    (c.attempts m once r).on s = (.ok o, t) := by
  rw [attempts, Run.on_bind_ok (Run.on_attempt_ok h)]
  rfl

theorem attempts_crash {x : Crash} (h : once.on s = (.error (.crash x), t)) :
    (c.attempts m once r).on s = (.error (.crash x), t) := by
  rw [attempts, Run.on_bind_error (Run.on_attempt_crash h)]

theorem attempts_plain {e : Error} (h : once.on s = (.error (.error e), t))
    (he : e.asksRetry = false) :
    (c.attempts m once r).on s = (.error (.error e), t) := by
  rw [attempts, Run.on_bind_ok (Run.on_attempt_error h)]
  cases e <;> first | rfl | cases he

theorem attempts_asked {e : Error} (h : once.on s = (.error (.error e), t))
    (he : e.asksRetry = true) :
    (c.attempts m once r).on s = ((r.judge e) >>= fun
      | .over _ => Run.fail (c.propagation.apply e)
      | .again r' _ =>
        c.onLevel (c.logger.retry m.configKey c.logLevel) >>= fun _ => c.attempts m once r').on t := by
  rw [attempts, Run.on_bind_ok (Run.on_attempt_error h)]
  cases e <;> first | rfl | cases he

theorem attempts_over {e : Error} {r' : Retryer} (h : once.on s = (.error (.error e), t))
    (he : e.asksRetry = true) (hj : (r.judge e).on t = (.ok (.over r'), u)) :
    (c.attempts m once r).on s = (.error (.error (c.propagation.apply e)), u) := by
  rw [attempts_asked h he, Run.on_bind_ok hj]
  rfl

theorem attempts_again {e : Error} {r' : Retryer} {hlt : r'.attemptsLeft < r.attemptsLeft}
    (h : once.on s = (.error (.error e), t)) (he : e.asksRetry = true)
    (hj : (r.judge e).on t = (.ok (.again r' hlt), u)) :
    (c.attempts m once r).on s =
      (c.attempts m once r').on (c.logged (c.logger.retry m.configKey c.logLevel) u) := by
  rw [attempts_asked h he, Run.on_bind_ok hj]
  exact Run.on_bind_ok (c.on_onLevel _ u)

end

/-! ## One attempt -/

/-- What becomes of the reply of the transport in the end. A crash is not caught. -/
def digest (request : Request) : Except Fault Response → Run Output
  | .error (.crash x) => Run.crash x
  | .error (.error e) => c.receive m request (.error e) >>= c.handleResponse m
  | .ok r => c.receive m request (.ok r) >>= c.handleResponse m

/-- One execution of the transport: from the session in which the attempt begins, over the one in
which the reply is there, to the one in which the attempt ends. -/
structure Attempt where
  start : Session
  reply : Except Fault Response
  replied : Session
  result : Except Fault Output
  finish : Session

structure Attempt.Performed (request : Request) (options : Options) (a : Attempt) : Prop where
  executed : (c.transport.execute request options).on
    (c.logged (c.logger.request m.configKey c.logLevel request) a.start) = (a.reply, a.replied)
  digested : (c.digest m request a.reply).on a.replied = (a.result, a.finish)

section
variable {c m} {request : Request} {options : Options} {target : Target}
  {template : RequestTemplate}

theorem executeAndDecode_eq_attempt {a : Attempt} (ht : target.apply template = .ok request)
    (ha : a.Performed c m request options) :
    (c.executeAndDecode target m template options).on a.start = (a.result, a.finish) := by
  rw [executeAndDecode, ht, Run.on_bind_ok (Run.on_ofExcept_ok request _), Run.on_bind, send,
    Run.on_bind_ok (c.on_onLevel _ _), ← ha.digested]
  have hx := ha.executed
  cases hr : a.reply with
  | error f =>
    rw [hr] at hx
    cases f with
    | crash x => rw [Run.on_bind_error (Run.on_attempt_crash hx)]; rfl
    | error e => rw [Run.on_bind_ok (Run.on_attempt_error hx), digest, Run.on_bind]
  | ok r =>
    rw [hr] at hx
    rw [Run.on_bind_ok (Run.on_attempt_ok hx), digest, Run.on_bind]

theorem exists_performed (request : Request) (options : Options) (s : Session) :
    ∃ a : Attempt, a.start = s ∧ a.Performed c m request options := by
  cases hx : (c.transport.execute request options).on
      (c.logged (c.logger.request m.configKey c.logLevel request) s) with
  | mk reply u =>
    cases hd : (c.digest m request reply).on u with
    | mk result v => exact ⟨⟨s, reply, u, result, v⟩, rfl, ⟨hx, hd⟩⟩

theorem handleResponse_reading {P : ∀ {α : Type}, Run α → Prop} (hP : Run.Reading P)
    (hdecoder : ∀ r type, P (c.decoder.decode r type))
    (herror : ∀ key r, P (c.errorDecoder.decode key r)) (r : Response) :
    P (c.handleResponse m r) := by
  have hbuffer : P (bufferSmall r) := by
    unfold bufferSmall
    split
    · split
      · split
        · exact hP.bind (hP.toBytes _) fun _ => hP.pure _
        · exact hP.pure r
      · exact hP.pure r
    · exact hP.pure r
  have hdecode : P (c.decode m r) := hP.mapError (hdecoder r _) _
  unfold handleResponse
  split
  · split
    · exact hP.bind hbuffer fun _ => hP.pure _
    · exact hP.pure _
  · split
    · split
      · exact hP.pure _
      · exact hdecode
    · split
      · exact hdecode
      · exact hP.bind (herror _ r) fun e => hP.fail e

theorem Attempt.Performed.result_of_error {a : Attempt} {e : Error}
    (ha : a.Performed c m request options) (h : a.reply = .error (.error e)) :
    a.result = .error (.error (if e.isTransport then asRetryable request e else e)) := by
  have hd := ha.digested
  rw [h, digest, receive] at hd
  by_cases he : e.isTransport = true
  · have hlog := (c.onLevel (c.logger.ioError m.configKey c.logLevel e a.replied.elapsed)).on_bind
      (fun _ => Run.fail (α := Response) (asRetryable request e)) a.replied
    rw [c.on_onLevel] at hlog
    rw [if_pos he, Run.on_bind_error ((Run.on_bind_ok (Run.on_get _)).trans hlog)] at hd
    rw [if_pos he]
    exact (congrArg Prod.fst hd).symm
  · rw [if_neg he, Run.on_bind_error (Run.on_fail e _)] at hd
    rw [if_neg he]
    exact (congrArg Prod.fst hd).symm

end

/-! ## All attempts -/

/-- The attempts of a call under any retryer, which is asked about every retryable error and about
no other, and what the call ends with. -/
inductive Tries (c : Components) (m : Metadata) (request : Request) (options : Options) :
    Retryer → Session → List Attempt → Except Fault Output × Session → Prop where
  | ends {r : Retryer} {a : Attempt} (performed : a.Performed c m request options)
    (final : ∀ e, a.result = .error (.error e) → e.asksRetry = false) :
    Tries c m request options r a.start [a] (a.result, a.finish)
  | refused {r r' : Retryer} {a : Attempt} {e : Error} {s : Session}
    (performed : a.Performed c m request options)
    (failed : a.result = .error (.error e)) (asked : e.asksRetry = true)
    (judged : (r.judge e).on a.finish = (.ok (.over r'), s)) :
    Tries c m request options r a.start [a] (.error (.error (c.propagation.apply e)), s)
  | crashed {r : Retryer} {a : Attempt} {e : Error} {x : Crash} {s : Session}
    (performed : a.Performed c m request options)
    (failed : a.result = .error (.error e)) (asked : e.asksRetry = true)
    (judged : (r.judge e).on a.finish = (.error (.crash x), s)) :
    Tries c m request options r a.start [a] (.error (.crash x), s)
  | again {r r' : Retryer} {a : Attempt} {as : List Attempt} {e : Error} {s : Session}
    {out : Except Fault Output × Session} {fewer : r'.attemptsLeft < r.attemptsLeft}
    (performed : a.Performed c m request options)
    (failed : a.result = .error (.error e)) (asked : e.asksRetry = true)
    (judged : (r.judge e).on a.finish = (.ok (.again r' fewer), s))
    (rest : Tries c m request options r' (c.logged (c.logger.retry m.configKey c.logLevel) s) as
      out) :
    Tries c m request options r a.start (a :: as) out

section
variable {c m} {request : Request} {options : Options} {target : Target} {t : RequestTemplate}

theorem attempts_tries (options : Options) (ht : target.apply t = .ok request) (r : Retryer)
    (s : Session) :
    ∃ as, Tries c m request options r s as ((c.attempts m (c.executeAndDecode target m t options) r).on s) := by
  -- on the number of attempts that are left
  induction hn : r.attemptsLeft using Nat.strongRecOn generalizing r s with
  | ind n ih =>
    obtain ⟨a, rfl, ha⟩ := exists_performed (c := c) (m := m) request options s
    have honce := executeAndDecode_eq_attempt ht ha
    cases hres : a.result with
    | ok o =>
      rw [hres] at honce
      rw [attempts_ok honce, ← hres]
      exact ⟨[a], .ends ha fun e he => by rw [hres] at he; cases he⟩
    | error f =>
      rw [hres] at honce
      cases f with
      | crash x =>
        rw [attempts_crash honce, ← hres]
        exact ⟨[a], .ends ha fun e he => by rw [hres] at he; cases he⟩
      | error e =>
        cases hask : e.asksRetry with
        | false =>
          rw [attempts_plain honce hask, ← hres]
          exact ⟨[a], .ends ha fun e' he => by rw [hres] at he; cases he; exact hask⟩
        | true =>
          cases hj : (r.judge e).on a.finish with
          | mk verdict u =>
            rcases verdict with (e' | x) | (⟨r', hlt⟩ | r')
            · obtain ⟨x, hx⟩ := r.faults_judge e _ _ _ hj
              cases hx
            · rw [attempts_asked honce hask, Run.on_bind_error hj]
              exact ⟨[a], .crashed ha hres hask hj⟩
            · rw [attempts_again honce hask hj]
              obtain ⟨as, hrest⟩ := ih _ (hn ▸ hlt) r' _ rfl
              exact ⟨a :: as, .again ha hres hask hj hrest⟩
            · rw [attempts_over honce hask hj]
              exact ⟨[a], .refused ha hres hask hj⟩

theorem Tries.performed {r : Retryer} {s : Session} {as : List Attempt}
    {out : Except Fault Output × Session} (h : Tries c m request options r s as out) :
    ∀ a ∈ as, a.Performed c m request options := by
  induction h with
  | ends ha _ | refused ha _ _ _ | crashed ha _ _ _ =>
    intro a hmem
    cases List.mem_singleton.mp hmem
    exact ha
  | again ha _ _ _ _ ih =>
    intro a hmem
    cases hmem with
    | head => exact ha
    | tail _ hmem => exact ih a hmem

end

/-! ## Calls -/

/-- The template as all interceptors leave it, each applied
once and in its turn, and the session with their notes. -/
def intercepted (is : List Interceptor) (t : RequestTemplate)
    (s : Session) : RequestTemplate × Session :=
  is.foldl (fun (t, s) i =>
    ((i.apply t).1, { s with journal := s.journal ++ (i.apply t).2.map .noted })) (t, s)

theorem on_intercept (is : List Interceptor) (t : RequestTemplate) (s : Session) :
    (intercept is t).on s = (.ok (intercepted is t s).1, (intercepted is t s).2) := by
  induction is generalizing t s with
  | nil =>
    rw [intercept, Interceptor.applyAll, Run.on_bind_ok (Run.on_noteAll _ _), List.map_nil,
      List.append_nil]
    rfl
  | cons i is ih =>
    have hrest := ih (i.apply t).1 { s with journal := s.journal ++ (i.apply t).2.map .noted }
    simp only [intercept, Run.on_bind, Run.on_noteAll, Run.on_pure] at hrest
    simp only [intercept, Interceptor.applyAll, Run.on_bind, Run.on_noteAll, Run.on_pure,
      List.map_append, ← List.append_assoc]
    exact hrest

theorem replies_intercepted (is : List Interceptor) (t : RequestTemplate) (s : Session) :
    (intercepted is t s).2.replies = s.replies := by
  induction is generalizing t s with
  | nil => rfl
  | cons i is ih => exact ih (i.apply t).1 _

section
variable {c m} {target : Target} {args : List Arg} {s s' u : Session} {t t' : RequestTemplate}
  {f : Fault} {r : Retryer}

theorem call_error (h : (Binding.create c.encoder c.queryMapEncoder m args).on s = (.error f, s')) :
    (c.call target m args).on s = (.error f, s') := by
  rw [call, Run.on_bind_error h]

theorem call_eq_attempts (h : (Binding.create c.encoder c.queryMapEncoder m args).on s = (.ok t, s'))
    (hint : intercepted c.interceptors t s' = (t', u)) (hr : c.retryPolicy = .of r) :
    (c.call target m args).on s =
      (c.attempts m (c.executeAndDecode target m t' (c.optionsFor args)) r.fresh).on u := by
  have hon := on_intercept c.interceptors t s'
  rw [hint] at hon
  rw [call, Run.on_bind_ok h, Run.on_bind_ok hon, hr]
  rfl

end

end Components

end DeclarativeHttp
