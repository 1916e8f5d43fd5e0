import DeclarativeHttp.Session

/-!
# Laws of runs

A run is read off at a session: `x.on s` is what it gives and the session after it. Every
primitive has its equation here, and a sequence is taken apart by `on_bind` and its two
inversions, so no later proof opens the monad.
-/

namespace DeclarativeHttp

theorem Error.bind_eq_ok {α β : Type} {x : Except Error α} {f : α → Except Error β} {b : β}
    (h : (x >>= f) = .ok b) : ∃ a, x = .ok a ∧ f a = .ok b := by
  cases x with
  | ok a => exact ⟨a, rfl, h⟩
  | error e => cases h

theorem Error.guard_eq_ok {α : Type} {c : Bool} {e : Error} {f : PUnit → Except Error α} {a : α}
    (h : (if c = true then throw e >>= f else f ⟨⟩) = .ok a) : c = false ∧ f ⟨⟩ = .ok a := by
  cases c with
  | true => cases h
  | false => exact ⟨rfl, h⟩

namespace Run

variable {α β : Type}

def on (x : Run α) (s : Session) : Except Fault α × Session := x.run.run s

@[simp] theorem on_pure (a : α) (s : Session) : (pure a : Run α).on s = (.ok a, s) := rfl

theorem on_bind (x : Run α) (f : α → Run β) (s : Session) :
    (x >>= f).on s = match x.on s with
      | (.ok a, t) => (f a).on t
      | (.error e, t) => (.error e, t) := by
  simp only [on, bind, ExceptT.bind, ExceptT.mk, ExceptT.run, StateT.run, StateT.bind, ExceptT.bindCont]
  cases h : x s with
  | mk r t => cases r <;> rfl

theorem on_bind_ok {x : Run α} {f : α → Run β} {s t : Session} {a : α} (h : x.on s = (.ok a, t)) :
    (x >>= f).on s = (f a).on t := by
  rw [on_bind, h]

theorem on_bind_error {x : Run α} {f : α → Run β} {s t : Session} {e : Fault}
    (h : x.on s = (.error e, t)) :
    (x >>= f).on s = (.error e, t) := by
  rw [on_bind, h]

theorem bind_eq_ok {x : Run α} {f : α → Run β} {s u : Session} {b : β}
    (h : (x >>= f).on s = (.ok b, u)) :
    ∃ a t, x.on s = (.ok a, t) ∧ (f a).on t = (.ok b, u) := by
  cases hx : x.on s with
  | mk r t =>
    cases r with
    | ok a => exact ⟨a, t, rfl, by rw [← on_bind_ok hx, h]⟩
    | error e => rw [on_bind_error hx] at h; cases h

@[simp] theorem on_fail (e : Error) (s : Session) :
    (fail e : Run α).on s = (.error (.error e), s) := rfl

theorem fail_bind (e : Error) (f : α → Run β) : (fail e >>= f) = fail e := rfl

@[simp] theorem on_crash (c : Crash) (s : Session) :
    (crash c : Run α).on s = (.error (.crash c), s) := rfl

@[simp] theorem on_get (s : Session) : (get : Run Session).on s = (.ok s, s) := rfl

@[simp] theorem on_set (t s : Session) : (set t : Run PUnit).on s = (.ok ⟨⟩, t) := rfl

@[simp] theorem on_clock (s : Session) : clock.on s = (.ok s.now, s) := rfl

@[simp] theorem on_noteAll (es : List Event) (s : Session) :
    (noteAll es).on s = (.ok (), { s with journal := s.journal ++ es }) := rfl

@[simp] theorem on_note (e : Event) (s : Session) :
    (note e).on s = (.ok (), { s with journal := s.journal ++ [e] }) := rfl

@[simp] theorem on_ofExcept_ok (a : α) (s : Session) : (ofExcept (.ok a)).on s = (.ok a, s) := rfl

@[simp] theorem on_ofExcept_error (e : Error) (s : Session) :
    (ofExcept (.error e) : Run α).on s = (.error (.error e), s) := rfl

theorem on_quiet (x : Quiet α) (s : Session) :
    (liftM x : Run α).on s = (.ok (x.run s).1, (x.run s).2) := rfl

theorem on_attempt (x : Run α) (s : Session) :
    (attempt x).on s = match x.on s with
      | (.ok a, t) => (.ok (.ok a), t)
      | (.error (.error e), t) => (.ok (.error e), t)
      | (.error (.crash c), t) => (.error (.crash c), t) := by
  simp only [on, attempt, tryCatch, tryCatchThe, MonadExceptOf.tryCatch, ExceptT.tryCatch,
    bind, ExceptT.bind, ExceptT.mk, ExceptT.run, StateT.run, StateT.bind, ExceptT.bindCont]
  cases h : x s with
  | mk r t => rcases r with (_ | _) | _ <;> rfl

theorem on_attempt_ok {x : Run α} {s t : Session} {a : α} (h : x.on s = (.ok a, t)) :
    (attempt x).on s = (.ok (.ok a), t) := by
  rw [on_attempt, h]

theorem on_attempt_error {x : Run α} {s t : Session} {e : Error}
    (h : x.on s = (.error (.error e), t)) :
    (attempt x).on s = (.ok (.error e), t) := by
  rw [on_attempt, h]

theorem on_attempt_crash {x : Run α} {s t : Session} {c : Crash}
    (h : x.on s = (.error (.crash c), t)) :
    (attempt x).on s = (.error (.crash c), t) := by
  rw [on_attempt, h]

theorem on_mapError (f : Error → Error) (x : Run α) (s : Session) :
    (mapError f x).on s = match x.on s with
      | (.ok a, t) => (.ok a, t)
      | (.error (.error e), t) => (.error (.error (f e)), t)
      | (.error (.crash c), t) => (.error (.crash c), t) := by
  rw [mapError, on_bind, on_attempt]
  cases x.on s with
  | mk r t => rcases r with (_ | _) | _ <;> rfl

/-! ## How runs end otherwise -/

variable {p q : Fault → Prop}

def Faults (p : Fault → Prop) (x : Run α) : Prop := ∀ s f t, x.on s = (.error f, t) → p f

theorem faults_pure (a : α) : Faults p (pure a) := by
  intro s f t h
  cases h

theorem faults_fail {e : Error} (h : p (.error e)) : Faults p (fail e : Run α) := by
  intro s f t hf
  cases hf
  exact h

theorem Faults.bind {x : Run α} {k : α → Run β} (hx : Faults p x)
    (hk : ∀ s a t, x.on s = (.ok a, t) → Faults p (k a)) : Faults p (x >>= k) := by
  intro s f t h
  cases hon : x.on s with
  | mk r u =>
    cases r with
    | ok a => rw [on_bind_ok hon] at h; exact hk s a u hon u f t h
    | error g => rw [on_bind_error hon] at h; cases h; exact hx s f t hon

def failsWith (p : Error → Bool) : Except Fault α → Bool
  | .ok _ => false
  | .error (.crash _) => false
  | .error (.error e) => p e

theorem failsWith_iff {p : Error → Bool} {r : Except Fault α} :
    failsWith p r = true ↔ ∃ e, r = .error (.error e) ∧ p e = true := by
  rcases r with (e | x) | o <;> simp [failsWith]

/-! ## Kinds of runs -/

/-- A kind that pure runs are of, and all that is put together from runs of the kind. -/
structure Closed (P : ∀ {α : Type}, Run α → Prop) : Prop where
  pure {α : Type} (a : α) : P (pure a : Run α)
  bind {α β : Type} {x : Run α} {k : α → Run β} (hx : P x) (hk : ∀ a, P (k a)) : P (x >>= k)

theorem faults_closed : Closed (fun {_} x => Faults p x) :=
  ⟨faults_pure, fun hx hk => hx.bind fun _ a _ _ => hk a⟩

end Run

/-! ## Pauses -/

namespace Session

/-- The session after a sleep that was asked for, whether it came to its end or not. -/
def afterSleep (interval : Nat) (s : Session) : Session :=
  { s with journal := s.journal ++ [.slept interval], sleeps := s.sleeps + 1 }

def cutsNext (s : Session) : Bool := s.cutShort (s.sleeps + 1)

end Session

theorem Run.on_sleep (interval : Nat) (s : Session) :
    (Run.sleep interval).on s = (.ok (!s.cutsNext), s.afterSleep interval) := rfl

end DeclarativeHttp
