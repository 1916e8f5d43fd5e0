import DeclarativeHttp.Proofs.Run
import DeclarativeHttp.Retry.Interrupt
import DeclarativeHttp.Retry.Policy

/-!
# Backoff

What one judgement of a backoff can be: the call is given up, or it goes on after a pause, or the
pause is cut short. No pause is longer than the greatest one, so as many pauses as there are
retries always fit in the time that can be counted (`Backoff.Fits`).
-/

namespace DeclarativeHttp

namespace Backoff

variable {b : Backoff} {now : Instant} {share : Nat → Nat} {e : Error}

def atAttempt (b : Backoff) (k : Nat) : Backoff := { b with attempt := k }

/-- The pause asked for after a failure; there is none when the server's instant is past. -/
def pause? (b : Backoff) (now : Instant) (share : Nat → Nat) (e : Error) : Option Nat :=
  match e.retryAfter? with
  | some t => if t < now then none else some (min (t - now).toNat b.maxPeriod)
  | none => some (if b.jitter then portion share b.interval else b.interval)

theorem pause?_of_past {t : Instant} (he : e.retryAfter? = some t) (ht : t < now) :
    b.pause? now share e = none := by
  rw [pause?, he]
  exact if_pos ht

theorem pause?_of_later {t : Instant} (he : e.retryAfter? = some t) (ht : now ≤ t) :
    b.pause? now share e = some (min (t - now).toNat b.maxPeriod) := by
  rw [pause?, he]
  exact if_neg (Int.not_lt.mpr ht)

theorem pause?_of_plain (hjitter : b.jitter = false) (he : e.retryAfter? = none) :
    b.pause? now share e = some b.interval := by
  rw [pause?, he, hjitter]
  rfl

theorem decide_spent (h : b.maxAttempts ≤ b.attempt) : b.decide now share e = .giveUp := by
  unfold decide; rw [if_pos h]

theorem decide_of_pause?_none (h : b.attempt < b.maxAttempts) (hp : b.pause? now share e = none) :
    b.decide now share e = .retry (b.atAttempt (b.attempt + 1)) := by
  unfold pause? at hp
  unfold decide atAttempt
  rw [if_neg (Nat.not_le.mpr h)]
  cases ht : e.retryAfter? with
  | none => rw [ht] at hp; cases hp
  | some t =>
    rw [ht] at hp
    by_cases hlt : t < now
    · simp only [hlt, if_true]
    · simp [hlt] at hp

theorem decide_of_pause?_some {i : Nat} (h : b.attempt < b.maxAttempts)
    (hp : b.pause? now share e = some i) :
    b.decide now share e = .sleep i (b.atAttempt (b.attempt + 1)) := by
  unfold pause? at hp
  unfold decide atAttempt
  rw [if_neg (Nat.not_le.mpr h)]
  cases ht : e.retryAfter? with
  | none =>
    rw [ht] at hp
    simp only [Option.some.injEq] at hp
    simp only [hp]
  | some t =>
    rw [ht] at hp
    by_cases hlt : t < now
    · simp [hlt] at hp
    · simp only [hlt, if_false, Option.some.injEq] at hp
      simp only [hlt, if_false, hp]

/-! ## Bounds -/

theorem interval_le (b : Backoff) : b.interval ≤ b.maxPeriod := by
  unfold interval
  simp only
  split
  · exact Nat.le_refl _
  · rename_i h
    exact Nat.le_trans (Nat.mod_le _ _) (Nat.le_of_lt (Nat.lt_of_not_le h))

theorem portion_le (share : Nat → Nat) (i : Nat) : portion share i ≤ i := by
  unfold portion; omega

theorem pause?_le {i : Nat} (h : b.pause? now share e = some i) : i ≤ b.maxPeriod := by
  unfold pause? at h
  split at h
  · split at h
    · cases h
    · simp only [Option.some.injEq] at h; omega
  · simp only [Option.some.injEq] at h
    subst h
    split
    · exact Nat.le_trans (portion_le ..) b.interval_le
    · exact b.interval_le

/-- The pauses of all attempts before the one under way fit
in what is counted, and so do those that may follow. -/
structure Fits (b : Backoff) : Prop where
  all : b.maxAttempts * b.maxPeriod ≤ maxDuration
  begun : 1 ≤ b.attempt
  counted : b.sleptFor ≤ (b.attempt - 1) * b.maxPeriod

theorem Fits.fresh (h : b.maxAttempts * b.maxPeriod ≤ maxDuration) : b.fresh.Fits :=
  ⟨h, Nat.le_refl 1, Nat.zero_le _⟩

theorem Fits.next (h : b.Fits) : (b.atAttempt (b.attempt + 1)).Fits :=
  ⟨h.all, by simp [atAttempt], Nat.le_trans h.counted (Nat.mul_le_mul_right _ (by simp [atAttempt]))⟩

theorem Fits.slept {i : Nat} (h : b.Fits) (ha : b.attempt < b.maxAttempts) (hi : i ≤ b.maxPeriod) :
    ∃ c, (b.atAttempt (b.attempt + 1)).slept i = some c ∧ c.Fits ∧
      c = { b with attempt := b.attempt + 1, sleptFor := b.sleptFor + i } := by
  have hb := h.begun
  have hsum : b.sleptFor + i ≤ b.attempt * b.maxPeriod := by
    calc b.sleptFor + i ≤ (b.attempt - 1) * b.maxPeriod + b.maxPeriod := Nat.add_le_add h.counted hi
      _ = (b.attempt - 1 + 1) * b.maxPeriod := by rw [Nat.succ_mul]
      _ = b.attempt * b.maxPeriod := by rw [Nat.sub_add_cancel hb]
  have hroom : b.attempt * b.maxPeriod ≤ maxDuration :=
    Nat.le_trans (Nat.mul_le_mul_right _ (Nat.le_of_lt ha)) h.all
  refine ⟨_, if_neg (by simp only [atAttempt]; omega), ⟨h.all, by simp [atAttempt], ?_⟩, rfl⟩
  simpa [atAttempt] using hsum

end Backoff

/-! ## Judgements -/

namespace Retryer

variable {b : Backoff} {e : Error} {s : Session}

theorem judge_giveUp (h : b.decide s.now s.share e = .giveUp) :
    (judge e (backoff b)).on s = (.ok (.over (backoff b)), s) := by
  rw [judge, Run.on_bind_ok (Run.on_get s)]
  split <;> rename_i hm <;> rw [h] at hm <;> cases hm
  rfl

theorem judge_retry {n : Backoff} (h : b.decide s.now s.share e = .retry n) :
    ∃ hlt, (judge e (backoff b)).on s = (.ok (.again (backoff n) hlt), s) := by
  refine ⟨Backoff.decide_attemptsLeft (.inl h), ?_⟩
  rw [judge, Run.on_bind_ok (Run.on_get s)]
  split <;> rename_i hm <;> rw [h] at hm <;> cases hm
  rfl

theorem judge_cut {i : Nat} {n : Backoff} (h : b.decide s.now s.share e = .sleep i n)
    (hc : s.cutsNext = true) :
    (judge e (backoff b)).on s = (.ok (.over (backoff n)), s.afterSleep i) := by
  rw [judge, Run.on_bind_ok (Run.on_get s)]
  split <;> rename_i hm <;> rw [h] at hm <;> cases hm
  rw [Run.on_bind_ok (Run.on_sleep i s), hc]
  rfl

theorem judge_slept {i : Nat} {n c : Backoff} (h : b.decide s.now s.share e = .sleep i n)
    (hc : s.cutsNext = false) (hs : n.slept i = some c) :
    ∃ hlt, (judge e (backoff b)).on s = (.ok (.again (backoff c) hlt), s.afterSleep i) := by
  have hlt : c.attemptsLeft < b.attemptsLeft := by
    rw [Backoff.slept_attemptsLeft hs]
    exact Backoff.decide_attemptsLeft (.inr ⟨i, h⟩)
  refine ⟨hlt, ?_⟩
  rw [judge, Run.on_bind_ok (Run.on_get s)]
  split <;> rename_i hm <;> rw [h] at hm <;> cases hm
  rw [Run.on_bind_ok (Run.on_sleep i s), hc]
  simp only [Bool.not_false, if_true]
  split <;> rename_i hd <;> rw [hs] at hd <;> cases hd
  rfl

theorem judge_tooLong {i : Nat} {n : Backoff} (h : b.decide s.now s.share e = .sleep i n)
    (hc : s.cutsNext = false) (hs : n.slept i = none) :
    (judge e (backoff b)).on s = (.error (.crash .sleptTooLong), s.afterSleep i) := by
  rw [judge, Run.on_bind_ok (Run.on_get s)]
  split <;> rename_i hm <;> rw [h] at hm <;> cases hm
  rw [Run.on_bind_ok (Run.on_sleep i s), hc]
  simp only [Bool.not_false, if_true]
  split <;> rename_i hd <;> rw [hs] at hd <;> cases hd
  rfl

/-- A judgement sleeps at most once, and depends on no more of a session than its clock, its chance
and whether the next sleep is cut short. -/
theorem judge_shape (r : Retryer) (e : Error) (s : Session) :
    ∃ v, ∃ pause : Option Nat, ∀ t : Session, t.now = s.now → t.share = s.share →
      t.cutsNext = s.cutsNext →
      (judge e r).on t = (v, pause.elim t t.afterSleep) := by
  cases r with
  | never => exact ⟨.ok (.over never), none, fun t _ _ _ => rfl⟩
  | backoff b =>
    have hsame : ∀ t : Session, t.now = s.now → t.share = s.share →
        b.decide t.now t.share e = b.decide s.now s.share e :=
          fun t hnow hshare => by rw [hnow, hshare]
    cases hd : b.decide s.now s.share e with
    | giveUp => exact ⟨_, none, fun t hn hs _ => judge_giveUp ((hsame t hn hs).trans hd)⟩
    | retry n =>
      refine ⟨.ok (.again (backoff n) (Backoff.decide_attemptsLeft (.inl hd))), none, fun t hn hs _ => ?_⟩
      obtain ⟨_, hj⟩ := judge_retry ((hsame t hn hs).trans hd)
      exact hj
    | sleep i n =>
      cases hc : s.cutsNext with
      | true => exact ⟨_, some i, fun t hn hs ht => judge_cut ((hsame t hn hs).trans hd) ht⟩
      | false =>
        cases hslept : n.slept i with
        | none => exact ⟨_, some i, fun t hn hs ht => judge_tooLong ((hsame t hn hs).trans hd) ht hslept⟩
        | some c =>
          obtain ⟨hlt, -⟩ := judge_slept hd hc hslept
          refine ⟨.ok (.again (backoff c) hlt), some i, fun t hn hs ht => ?_⟩
          obtain ⟨_, hj⟩ := judge_slept ((hsame t hn hs).trans hd) ht hslept
          exact hj

theorem faults_judge (r : Retryer) (e : Error) : (r.judge e).Faults fun f => ∃ x, f = .crash x := by
  cases r with
  | never => exact Run.faults_pure _
  | backoff b =>
    intro s f t h
    rw [judge, Run.on_bind_ok (Run.on_get s)] at h
    split at h
    · cases h
    · cases h
    · rw [Run.on_bind_ok (Run.on_sleep _ s)] at h
      split at h
      · split at h
        · cases h
        · cases h
          exact ⟨_, rfl⟩
      · cases h

end Retryer

/-! ## Interrupts -/

section
variable {i k : Nat} {h : Interrupts}

theorem Interrupts.sleep_heed (k : Nat) (h : Interrupts) (i : Nat) (s : Session) :
    (Run.sleep i).on (h.heed k s) = (.ok (h.sleep k).isOk, (h.heed k s).afterSleep i) := by
  have hcut : (h.sleep k).isOk = !h.isInterrupted k := by
    unfold sleep
    cases h.isInterrupted k <;> rfl
  rw [Run.on_sleep, hcut]
  rfl

/-- While its handle is interrupted, a backoff ends a call at the first pause. -/
theorem Retryer.judge_interrupted {b n : Backoff} {e : Error} {s : Session}
    (hk : h.isInterrupted k = true) (hd : b.decide s.now s.share e = .sleep i n) :
    (judge e (backoff b)).on (h.heed k s) = (.ok (.over (backoff n)), (h.heed k s).afterSleep i) :=
  judge_cut hd hk

end

end DeclarativeHttp
