import DeclarativeHttp.Proofs.Backoff
import Mathlib.Algebra.Ring.Nat

/-!
# Consultations

A backoff is asked about one failure after the other, whoever asks and whatever became of the
answers before. The clock may have been set in the meantime, and any pause may be cut short. Each
consultation has one of four outcomes, and all but the first count as an attempt; so only so many
can be answered with leave to try again, and the pauses that came to their end are all in the total.
-/

namespace DeclarativeHttp

/-! ## Answers -/

namespace Retryer.Verdict

variable {r : Retryer}

/-- What a failure is answered with: leave to try again, or the failure itself. -/
def answer (e : Error) : r.Verdict → Except Error Unit
  | .again _ _ => .ok ()
  | .over _ => .error e

def retryer : r.Verdict → Retryer
  | .again next _ => next
  | .over last => last

end Retryer.Verdict

def Event.pause? : Event → Option Nat
  | .slept i => some i
  | _ => none

def Session.pausesUntil (s t : Session) : List Nat :=
  (t.journal.drop s.journal.length).filterMap Event.pause?

theorem Session.pausesUntil_self (s : Session) : s.pausesUntil s = [] := by
  rw [pausesUntil, List.drop_length, List.filterMap_nil]

theorem Session.pausesUntil_afterSleep (i : Nat) (s : Session) :
    s.pausesUntil (s.afterSleep i) = [i] := by
  rw [pausesUntil, afterSleep, List.drop_left]
  rfl

/-- A failure that a backoff is asked about, in a session
of any kind, with the answer and what is left. -/
structure Consultation where
  before : Backoff
  failure : Error
  start : Session
  answer : Except Error Unit
  after : Backoff
  finish : Session

namespace Consultation

variable {b c d : Backoff} {x y : Consultation} {xs : List Consultation}

def Held (x : Consultation) : Prop :=
  ∃ v, (Retryer.judge x.failure (.backoff x.before)).on x.start = (.ok v, x.finish) ∧
    v.answer x.failure = x.answer ∧ v.retryer = .backoff x.after

def pauses (x : Consultation) : List Nat := x.start.pausesUntil x.finish

def completed (x : Consultation) : List Nat := if x.start.cutsNext then [] else x.pauses

inductive Asked : Backoff → List Consultation → Backoff → Prop where
  | none {b : Backoff} : Asked b [] b
  | next {x : Consultation} {xs : List Consultation} {c : Backoff} (held : x.Held)
    (rest : Asked x.after xs c) :
    Asked x.before (x :: xs) c

/-! ## One consultation -/

/-- The attempts are spent, or the server's instant is
past, or there is a pause, which is cut short or not. -/
inductive Outcome : Consultation → Prop where
  | spent (b : Backoff) (e : Error) (s : Session)
    (h : b.maxAttempts ≤ b.attempt) : Outcome ⟨b, e, s, .error e, b, s⟩
  | past (b : Backoff) (e : Error) (s : Session) (h : b.attempt < b.maxAttempts)
    (hpause : b.pause? s.now s.share e = none) : Outcome ⟨b, e, s, .ok (), b.atAttempt (b.attempt + 1), s⟩
  | cut (b : Backoff) (e : Error) (s : Session) (i : Nat) (h : b.attempt < b.maxAttempts)
    (hpause : b.pause? s.now s.share e = some i) (hcut : s.cutsNext = true) :
    Outcome ⟨b, e, s, .error e, b.atAttempt (b.attempt + 1), s.afterSleep i⟩
  | slept (b : Backoff) (e : Error) (s : Session) (i : Nat) (h : b.attempt < b.maxAttempts)
    (hpause : b.pause? s.now s.share e = some i) (hcut : s.cutsNext = false) :
    Outcome ⟨b, e, s, .ok (), { b with attempt := b.attempt + 1, sleptFor := b.sleptFor + i },
      s.afterSleep i⟩

theorem Held.unique (hx : x.Held) (hy : y.Held) (hbefore : x.before = y.before)
    (hfailure : x.failure = y.failure) (hstart : x.start = y.start) : x = y := by
  obtain ⟨b, e, s, answer, after, finish⟩ := x
  obtain ⟨b', e', s', answer', after', finish'⟩ := y
  obtain ⟨v, hv, hanswer, hafter⟩ := hx
  obtain ⟨w, hw, hanswer', hafter'⟩ := hy
  cases hbefore
  cases hfailure
  cases hstart
  cases hv.symm.trans hw
  cases hanswer.symm.trans hanswer'
  cases hafter.symm.trans hafter'
  rfl

theorem Outcome.held (h : x.Outcome) (hfit : x.before.Fits) : x.Held := by
  cases h with
  | spent b e s h => exact ⟨_, Retryer.judge_giveUp (Backoff.decide_spent h), rfl, rfl⟩
  | past b e s h hpause =>
    obtain ⟨_, hjudge⟩ := Retryer.judge_retry (Backoff.decide_of_pause?_none h hpause)
    exact ⟨_, hjudge, rfl, rfl⟩
  | cut b e s i h hpause hcut =>
    exact ⟨_, Retryer.judge_cut (Backoff.decide_of_pause?_some h hpause) hcut, rfl, rfl⟩
  | slept b e s i h hpause hcut =>
    obtain ⟨c, hslept, -, rfl⟩ := hfit.slept h (Backoff.pause?_le hpause)
    obtain ⟨_, hjudge⟩ := Retryer.judge_slept (Backoff.decide_of_pause?_some h hpause) hcut hslept
    exact ⟨_, hjudge, rfl, rfl⟩

theorem exists_outcome (b : Backoff) (e : Error) (s : Session) :
    ∃ x : Consultation, (x.before = b ∧ x.failure = e ∧ x.start = s) ∧ x.Outcome := by
  obtain h | h := Nat.lt_or_ge b.attempt b.maxAttempts
  · cases hpause : b.pause? s.now s.share e with
    | none => exact ⟨_, ⟨rfl, rfl, rfl⟩, .past b e s h hpause⟩
    | some i =>
      cases hcut : s.cutsNext with
      | true => exact ⟨_, ⟨rfl, rfl, rfl⟩, .cut b e s i h hpause hcut⟩
      | false => exact ⟨_, ⟨rfl, rfl, rfl⟩, .slept b e s i h hpause hcut⟩
  · exact ⟨_, ⟨rfl, rfl, rfl⟩, .spent b e s h⟩

theorem Held.outcome (h : x.Held) (hfit : x.before.Fits) : x.Outcome := by
  obtain ⟨y, ⟨hbefore, hfailure, hstart⟩, hout⟩ := exists_outcome x.before x.failure x.start
  have hy : y.Held := hout.held (hbefore ▸ hfit)
  cases hy.unique h hbefore hfailure hstart
  exact hout

theorem Outcome.of_spent (h : x.Outcome) (hspent : x.before.maxAttempts ≤ x.before.attempt) :
    x.answer = .error x.failure ∧ x.pauses = [] := by
  cases h with
  | spent b e s => exact ⟨rfl, s.pausesUntil_self⟩
  | past b e s h => exact absurd h (Nat.not_lt.mpr hspent)
  | cut b e s i h => exact absurd h (Nat.not_lt.mpr hspent)
  | slept b e s i h => exact absurd h (Nat.not_lt.mpr hspent)

theorem Outcome.of_past (h : x.Outcome) (hleft : x.before.attempt < x.before.maxAttempts)
    (hpast : x.before.pause? x.start.now x.start.share x.failure = none) :
    x.answer = .ok () ∧ x.pauses = [] := by
  cases h with
  | spent b e s h => exact absurd hleft (Nat.not_lt.mpr h)
  | past b e s => exact ⟨rfl, s.pausesUntil_self⟩
  | cut b e s i h hpause => cases hpause.symm.trans hpast
  | slept b e s i h hpause => cases hpause.symm.trans hpast

theorem Outcome.of_pause {i : Nat} (h : x.Outcome) (hleft : x.before.attempt < x.before.maxAttempts)
    (hpause : x.before.pause? x.start.now x.start.share x.failure = some i) : x.pauses = [i] := by
  cases h with
  | spent b e s h => exact absurd hleft (Nat.not_lt.mpr h)
  | past b e s h hpast => cases hpast.symm.trans hpause
  | cut b e s j h hj =>
    cases hj.symm.trans hpause
    exact s.pausesUntil_afterSleep i
  | slept b e s j h hj =>
    cases hj.symm.trans hpause
    exact s.pausesUntil_afterSleep i

theorem Outcome.capped (h : x.Outcome) : ∀ i ∈ x.pauses, i ≤ x.before.maxPeriod := by
  intro i hi
  obtain hleft | hspent := Nat.lt_or_ge x.before.attempt x.before.maxAttempts
  · cases hpause : x.before.pause? x.start.now x.start.share x.failure with
    | none =>
      rw [(h.of_past hleft hpause).2] at hi
      cases hi
    | some j =>
      rw [h.of_pause hleft hpause, List.mem_singleton] at hi
      exact hi ▸ Backoff.pause?_le hpause
  · rw [(h.of_spent hspent).2] at hi
    cases hi

theorem Outcome.answer_eq (h : x.Outcome) (hpauses : x.pauses ≠ []) :
    x.answer = if x.start.cutsNext then .error x.failure else .ok () := by
  cases h with
  | spent b e s => exact absurd s.pausesUntil_self hpauses
  | past b e s => exact absurd s.pausesUntil_self hpauses
  | cut b e s i h hpause hcut => exact (if_pos hcut).symm
  | slept b e s i h hpause hcut => exact (if_neg (by simp [hcut])).symm

theorem Outcome.le_attempt (h : x.Outcome) :
    (if x.answer.isOk then 1 else 0) + x.before.attempt ≤ x.after.attempt := by
  cases h <;> simp [Except.isOk, Except.toBool, Backoff.atAttempt] <;> omega

theorem Outcome.sleptFor_eq (h : x.Outcome) :
    x.after.sleptFor = x.before.sleptFor + x.completed.sum := by
  cases h with
  | spent b e s => simp [completed, pauses, Session.pausesUntil_self]
  | past b e s => simp [completed, pauses, Session.pausesUntil_self, Backoff.atAttempt]
  | cut b e s i h hpause hcut => simp [completed, hcut, Backoff.atAttempt]
  | slept b e s i h hpause hcut => simp [completed, hcut, pauses, Session.pausesUntil_afterSleep]

/-- What a fresh backoff can become: only the attempt
and the total change, and both stay in their bounds. -/
structure Within (b d : Backoff) : Prop where
  same : d.fresh = b.fresh
  fits : d.Fits
  counted : d.attempt ≤ max 1 b.maxAttempts

section
variable (h : Within b c)
include h

theorem Within.maxAttempts_eq : c.maxAttempts = b.maxAttempts := by
  have hfresh : c.fresh.maxAttempts = b.fresh.maxAttempts := by rw [h.same]
  exact hfresh

theorem Within.maxPeriod_eq : c.maxPeriod = b.maxPeriod := by
  have hfresh : c.fresh.maxPeriod = b.fresh.maxPeriod := by rw [h.same]
  exact hfresh

theorem Within.jitter_eq : c.jitter = b.jitter := by
  have hfresh : c.fresh.jitter = b.fresh.jitter := by rw [h.same]
  exact hfresh

theorem Within.interval_eq : c.interval = (b.atAttempt c.attempt).interval := by
  have hfresh : (c.fresh.atAttempt c.attempt).interval =
      (b.fresh.atAttempt c.attempt).interval := by rw [h.same]
  exact hfresh

end

theorem Outcome.within (h : x.Outcome) (hx : Within b x.before) : Within b x.after := by
  have hmax : x.before.attempt < x.before.maxAttempts →
      x.before.attempt + 1 ≤ max 1 b.maxAttempts := fun hlt =>
      Nat.le_trans (hx.maxAttempts_eq ▸ hlt) (Nat.le_max_right 1 b.maxAttempts)
  obtain ⟨hsame, hfit, hcounted⟩ := hx
  cases h with
  | spent => exact ⟨hsame, hfit, hcounted⟩
  | past d e s h => exact ⟨hsame, hfit.next, hmax h⟩
  | cut d e s i h => exact ⟨hsame, hfit.next, hmax h⟩
  | slept d e s i h hpause =>
    obtain ⟨_, -, hslept, rfl⟩ := hfit.slept h (Backoff.pause?_le hpause)
    exact ⟨hsame, hslept, hmax h⟩

structure Lawful (b : Backoff) (x : Consultation) : Prop where
  counted : 1 ≤ x.before.attempt ∧ x.before.attempt ≤ max 1 b.maxAttempts
  spent : b.maxAttempts ≤ x.before.attempt → x.answer = .error x.failure ∧ x.pauses = []
  past : x.before.attempt < b.maxAttempts → ∀ t, x.failure.retryAfter? = some t → t < x.start.now →
    x.answer = .ok () ∧ x.pauses = []
  obeyed : x.before.attempt < b.maxAttempts → ∀ t, x.failure.retryAfter? = some t →
    x.start.now ≤ t →
    x.pauses = [min (t - x.start.now).toNat b.maxPeriod]
  computed : x.before.attempt < b.maxAttempts → x.failure.retryAfter? = none →
    x.pauses = [(b.atAttempt x.before.attempt).interval]
  capped : ∀ i ∈ x.pauses, i ≤ b.maxPeriod
  answered : x.pauses ≠ [] → x.answer = if x.start.cutsNext then .error x.failure else .ok ()

theorem Outcome.lawful (h : x.Outcome) (hx : Within b x.before) (hjitter : b.jitter = false) :
    x.Lawful b := by
  have hmax := hx.maxAttempts_eq
  have hplain : x.before.jitter = false := hx.jitter_eq.trans hjitter
  refine ⟨⟨hx.fits.begun, hx.counted⟩, fun hspent => h.of_spent (hmax ▸ hspent), fun hleft t he ht => ?_,
    fun hleft t he ht => ?_, fun hleft he => ?_, hx.maxPeriod_eq ▸ h.capped, h.answer_eq⟩
  · exact h.of_past (hmax ▸ hleft) (Backoff.pause?_of_past he ht)
  · rw [h.of_pause (hmax ▸ hleft) (Backoff.pause?_of_later he ht), hx.maxPeriod_eq]
  · rw [h.of_pause (hmax ▸ hleft) (Backoff.pause?_of_plain hplain he), hx.interval_eq]

/-! ## All of them -/

theorem exists_asked (hc : Within b c) (asks : List (Error × Session)) :
    ∃ xs d, Asked c xs d ∧ xs.map (fun x => (x.failure, x.start)) = asks := by
  induction asks generalizing c with
  | nil => exact ⟨[], c, .none, rfl⟩
  | cons ask asks ih =>
    obtain ⟨x, ⟨rfl, hfailure, hstart⟩, hout⟩ := exists_outcome c ask.1 ask.2
    obtain ⟨xs, d, hrest, hasks⟩ := ih (hout.within hc)
    exact ⟨x :: xs, d, .next (hout.held hc.fits) hrest, by rw [List.map_cons, hasks, hfailure, hstart]⟩

theorem Asked.within (h : Asked c xs d) (hc : Within b c) :
    Within b d ∧ ∀ x ∈ xs, x.Outcome ∧ Within b x.before := by
  induction h with
  | none => exact ⟨hc, by simp⟩
  | next held rest ih =>
    have hout := held.outcome hc.fits
    obtain ⟨hd, hxs⟩ := ih (hout.within hc)
    exact ⟨hd, List.forall_mem_cons.mpr ⟨⟨hout, hc⟩, hxs⟩⟩

theorem Asked.le_attempt (h : Asked b xs c) (hxs : ∀ x ∈ xs, x.Outcome) :
    xs.countP (fun x => x.answer.isOk) + b.attempt ≤ c.attempt := by
  induction h with
  | none => simp
  | next held rest ih =>
    obtain ⟨hx, hxs⟩ := List.forall_mem_cons.mp hxs
    have hstep := hx.le_attempt
    have hrest := ih hxs
    rw [List.countP_cons]
    omega

theorem Asked.sleptFor_eq (h : Asked b xs c) (hxs : ∀ x ∈ xs, x.Outcome) :
    c.sleptFor = b.sleptFor + (xs.flatMap completed).sum := by
  induction h with
  | none => simp
  | next held rest ih =>
    obtain ⟨hx, hxs⟩ := List.forall_mem_cons.mp hxs
    rw [ih hxs, hx.sleptFor_eq, List.flatMap_cons, List.sum_append, Nat.add_assoc]

theorem Within.fresh (h : b.maxAttempts * b.maxPeriod ≤ Backoff.maxDuration) : Within b b.fresh :=
  ⟨rfl, .fresh h, Nat.le_max_left 1 b.maxAttempts⟩

/-- A backoff without jitter that is taken fresh can be asked about any failures, at any time and
with any pauses cut short. Its attempt stays in bounds, and it says yes less often than that; each
failure is answered lawfully; and the total is that of the pauses that came to their end. -/
theorem consultations_lawful (hjitter : b.jitter = false)
    (hfit : b.maxAttempts * b.maxPeriod ≤ Backoff.maxDuration) :
    (∀ asks : List (Error × Session), ∃ xs c, Asked b.fresh xs c ∧ xs.map (fun x => (x.failure, x.start)) = asks) ∧
    ∀ xs c, Asked b.fresh xs c →
      (1 ≤ c.attempt ∧ c.attempt ≤ max 1 b.maxAttempts) ∧
      xs.countP (fun x => x.answer.isOk) ≤ max 1 b.maxAttempts - 1 ∧
      (∀ x ∈ xs, x.Lawful b) ∧ c.sleptFor = (xs.flatMap completed).sum := by
  refine ⟨exists_asked (.fresh hfit), fun xs c h => ?_⟩
  obtain ⟨hc, hxs⟩ := h.within (.fresh hfit)
  have hout : ∀ x ∈ xs, x.Outcome := fun x hx => (hxs x hx).1
  have hcount : xs.countP (fun x => x.answer.isOk) + 1 ≤ c.attempt := h.le_attempt hout
  have hbound := hc.counted
  have htotal : c.sleptFor = 0 + (xs.flatMap completed).sum := h.sleptFor_eq hout
  exact ⟨⟨hc.fits.begun, hbound⟩, by omega, fun x hx => (hxs x hx).1.lawful (hxs x hx).2 hjitter,
    htotal.trans (Nat.zero_add _)⟩

/-- A used backoff, taken fresh, is asked about a failure without an
instant, one whose instant is past, one whose instant is far away with
the pause cut short, and one more, for which there is no attempt left. -/
theorem consultations_lawful_mixed :
    let b := { Backoff.new 100 150 4 with attempt := 9, sleptFor := 7 }
    let failure (t : Option Instant) := Error.retryable "busy" .get t none
    let session (now : Instant) (cut : Bool) : Session := ⟨now, 0, [], 0, fun _ => cut, id, []⟩
    let asks := [(failure none, session 0 false), (failure (some 5), session 9 false),
      (failure (some 900), session 0 true), (failure none, session 0 false)]
    b.jitter = false ∧ b.maxAttempts * b.maxPeriod ≤ Backoff.maxDuration ∧
      ∃ xs c, Asked b.fresh xs c ∧ xs.map (fun x => (x.failure, x.start)) = asks ∧
        xs.map (·.answer) = [.ok (), .ok (), .error (failure (some 900)), .error (failure none)] ∧
        xs.map pauses = [[100], [], [150], []] ∧ xs.flatMap completed = [100] ∧
        c.attempt = 4 ∧ c.sleptFor = 100 ∧ (∀ x ∈ xs, x.Lawful b) := by
  intro b failure session asks
  have hfit : b.maxAttempts * b.maxPeriod ≤ Backoff.maxDuration := by decide
  have hpast : ({ b with attempt := 2, sleptFor := 100 } : Backoff).pause? 9 id (failure (some 5)) =
    none :=
    Backoff.pause?_of_past (Error.retryAfter?_retryable ..) (by decide)
  have hlater : ({ b with attempt := 3, sleptFor := 100 } : Backoff).pause? 0 id (failure (some 900)) = some 150 :=
    Backoff.pause?_of_later (Error.retryAfter?_retryable ..) (by decide)
  have hslept := Outcome.slept b.fresh (failure none) (session 0 false) 100 (by decide) rfl rfl
  have hpassed := Outcome.past _ _ (session 9 false) (by decide) hpast
  have hcut := Outcome.cut _ _ (session 0 true) 150 (by decide) hlater rfl
  have hspent := Outcome.spent { b with attempt := 4, sleptFor := 100 } (failure none) (session 0 false) (by decide)
  have hfresh : Within b b.fresh := .fresh hfit
  have hsecond := hslept.within hfresh
  have hthird := hpassed.within hsecond
  have hfourth := hcut.within hthird
  have hasked := Asked.next (hslept.held hfresh.fits) (.next (hpassed.held hsecond.fits)
    (.next (hcut.held hthird.fits) (.next (hspent.held hfourth.fits) .none)))
  obtain ⟨-, -, hlawful, htotal⟩ := (consultations_lawful rfl hfit).2 _ _ hasked
  exact ⟨rfl, hfit, _, _, hasked, rfl, rfl, rfl, rfl, rfl, htotal, hlawful⟩

end Consultation

end DeclarativeHttp
