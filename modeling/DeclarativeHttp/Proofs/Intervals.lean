import DeclarativeHttp.Proofs.Backoff
import Mathlib.Algebra.Order.Field.Rat
import Mathlib.Data.Nat.Cast.Order.Field
import Mathlib.Order.Monotone.Basic
import Mathlib.Tactic.GCongr
import Mathlib.Tactic.Linarith
import Mathlib.Tactic.Positivity

/-!
# Intervals

The pause after attempt number `n` is the period times `1.5 ^ (n - 1)`, up to the greatest pause. It
is computed in whole nanoseconds, and all that rounding takes away is what one nanosecond would have
grown to. But a pause below the greatest one is counted in a word of 64 bits, so one of 584 years or
more loses its upper bits there. In that case, and in no other, it is too short.
-/

namespace DeclarativeHttp

namespace Backoff

/-! ## Growth -/

theorem le_grow (limit n nanos : Nat) : nanos ≤ grow limit n nanos := by
  induction n generalizing nanos with
  | zero => exact Nat.le_refl nanos
  | succ n ih =>
    rw [grow]
    split
    · exact Nat.le_refl nanos
    · exact Nat.le_trans (by omega) (ih (nanos * 3 / 2))

theorem grow_le_succ (limit n nanos : Nat) : grow limit n nanos ≤ grow limit (n + 1) nanos := by
  induction n generalizing nanos with
  | zero => exact le_grow limit 1 nanos
  | succ n ih =>
    rw [grow, grow]
    split
    · exact Nat.le_refl nanos
    · exact ih (nanos * 3 / 2)

theorem grow_mono (limit nanos : Nat) : Monotone fun n => grow limit n nanos :=
  monotone_nat_of_le_succ fun n => grow_le_succ limit n nanos

theorem grow_of_le_one {nanos : Nat} (h : nanos ≤ 1) (limit n : Nat) :
    grow limit n nanos = nanos := by
  induction n with
  | zero => rfl
  | succ n ih =>
    rw [grow]
    split
    · rfl
    · have hstep : nanos * 3 / 2 = nanos := by omega
      rw [hstep, ih]

theorem half_more_le (nanos : Nat) : ((nanos * 3 / 2 : Nat) : ℚ) ≤ nanos * (3 / 2) := by
  have hdiv : 2 * (nanos * 3 / 2) ≤ nanos * 3 := Nat.mul_div_le _ _
  have hcast : (2 : ℚ) * (nanos * 3 / 2 : Nat) ≤ nanos * 3 := by exact_mod_cast hdiv
  linarith

theorem le_half_more (nanos : Nat) : ((nanos : ℚ) - 1) * (3 / 2) ≤ (nanos * 3 / 2 : Nat) - 1 := by
  have hdiv : nanos * 3 ≤ 2 * (nanos * 3 / 2) + 1 := by omega
  have hcast : (nanos : ℚ) * 3 ≤ 2 * (nanos * 3 / 2 : Nat) + 1 := by exact_mod_cast hdiv
  linarith

theorem grow_le (limit n nanos : Nat) : (grow limit n nanos : ℚ) ≤ nanos * (3 / 2) ^ n := by
  induction n generalizing nanos with
  | zero => simp [grow]
  | succ n ih =>
    rw [grow]
    split
    · exact le_mul_of_one_le_right (Nat.cast_nonneg nanos) (one_le_pow₀ (by norm_num))
    · calc (grow limit n (nanos * 3 / 2) : ℚ) ≤ (nanos * 3 / 2 : Nat) * (3 / 2) ^ n := ih _
        _ ≤ nanos * (3 / 2) * (3 / 2) ^ n := by gcongr; exact half_more_le nanos
        _ = nanos * (3 / 2) ^ (n + 1) := by rw [pow_succ', mul_assoc]

/-- Below the limit nothing ends the growth early, and all rounding together costs no more than what
grows out of one nanosecond. -/
theorem le_grow_of_lt {limit n nanos : Nat} (h : grow limit n nanos < limit) :
    ((nanos : ℚ) - 1) * (3 / 2) ^ n ≤ grow limit n nanos := by
  induction n generalizing nanos with
  | zero => simp [grow]
  | succ n ih =>
    rw [grow] at h ⊢
    split at h
    · rename_i hstop
      have hzero : nanos = 0 := by simpa [Nat.not_le.mpr h] using hstop
      subst hzero
      have hpow : (0 : ℚ) ≤ (3 / 2) ^ (n + 1) := by positivity
      simp only [decide_true, Bool.true_or, if_true, Nat.cast_zero, zero_sub]
      linarith
    · rename_i hgrows
      rw [if_neg hgrows]
      calc ((nanos : ℚ) - 1) * (3 / 2) ^ (n + 1) = (nanos - 1) * (3 / 2) * (3 / 2) ^ n := by
            rw [pow_succ', mul_assoc]
        _ ≤ ((nanos * 3 / 2 : Nat) - 1) * (3 / 2) ^ n := by gcongr; exact le_half_more nanos
        _ ≤ grow limit n (nanos * 3 / 2) := ih h

/-! ## The law -/

variable {b : Backoff} {n : Nat}

def grown (b : Backoff) (n : Nat) : Nat := grow b.maxPeriod (n - 1) b.period

/-- The pause after an attempt is below the greatest one, and yet does not fit in a word. -/
def Overflows (b : Backoff) (n : Nat) : Prop := UInt64.size ≤ b.grown n ∧ b.grown n < b.maxPeriod

/-- The pause after attempt number `n` as it is documented. -/
structure IntervalLaw (b : Backoff) (n : Nat) : Prop where
  capped : (b.atAttempt n).interval ≤ b.maxPeriod
  growing : ∀ k ≤ n, (b.atAttempt k).interval ≤ (b.atAttempt n).interval
  least : min (b.maxPeriod : ℚ) ((b.period - 1) * (3 / 2) ^ (n - 1)) ≤ (b.atAttempt n).interval
  greatest : ((b.atAttempt n).interval : ℚ) ≤ min (b.maxPeriod : ℚ) (b.period * (3 / 2) ^ (n - 1))

theorem grown_mono {k : Nat} (h : k ≤ n) : b.grown k ≤ b.grown n :=
  grow_mono b.maxPeriod b.period (Nat.sub_le_sub_right h 1)

theorem interval_atAttempt (b : Backoff) (n : Nat) : (b.atAttempt n).interval =
    if b.maxPeriod ≤ b.grown n then b.maxPeriod else b.grown n % UInt64.size := rfl

theorem interval_le_grown (b : Backoff) (n : Nat) :
    (b.atAttempt n).interval ≤ min b.maxPeriod (b.grown n) := by
  rw [interval_atAttempt]
  split
  · rename_i h
    exact Nat.le_min.mpr ⟨Nat.le_refl _, h⟩
  · rename_i h
    have hmod := Nat.mod_le (b.grown n) UInt64.size
    exact Nat.le_min.mpr ⟨Nat.le_trans hmod (Nat.le_of_lt (Nat.lt_of_not_le h)), hmod⟩

theorem interval_of_fits (h : ¬ b.Overflows n) :
    (b.atAttempt n).interval = min b.maxPeriod (b.grown n) := by
  rw [interval_atAttempt]
  split
  · rename_i hmax
    exact (Nat.min_eq_left hmax).symm
  · rename_i hmax
    have hbelow : b.grown n < b.maxPeriod := Nat.lt_of_not_le hmax
    have hword : b.grown n < UInt64.size := Nat.lt_of_not_le fun hsize => h ⟨hsize, hbelow⟩
    rw [Nat.mod_eq_of_lt hword, Nat.min_eq_right (Nat.le_of_lt hbelow)]

theorem interval_le_power (b : Backoff) (n : Nat) :
    ((b.atAttempt n).interval : ℚ) ≤ min (b.maxPeriod : ℚ) (b.period * (3 / 2) ^ (n - 1)) := by
  have hdue := Nat.le_min.mp (b.interval_le_grown n)
  refine le_min (by exact_mod_cast hdue.1) ?_
  calc ((b.atAttempt n).interval : ℚ) ≤ b.grown n := by exact_mod_cast hdue.2
    _ ≤ b.period * (3 / 2) ^ (n - 1) := grow_le _ _ _

theorem IntervalLaw.of_fits (h : ¬ b.Overflows n) : b.IntervalLaw n where
  capped := interval_le _
  growing k hk := by
    rw [interval_of_fits h]
    exact Nat.le_trans (b.interval_le_grown k) (min_le_min_left _ (grown_mono hk))
  least := by
    rw [interval_of_fits h]
    obtain hmax | hmax := le_or_gt b.maxPeriod (b.grown n)
    · rw [Nat.min_eq_left hmax]
      exact min_le_left _ _
    · rw [Nat.min_eq_right (Nat.le_of_lt hmax)]
      exact (min_le_right _ _).trans (le_grow_of_lt hmax)
  greatest := b.interval_le_power n

/-- Of a value that does not fit in a word not even the half is left. -/
theorem not_intervalLaw_of_overflows (h : b.Overflows n) : ¬ b.IntervalLaw n := by
  intro hlaw
  obtain ⟨hsize, hmax⟩ := h
  have hinterval : (b.atAttempt n).interval = b.grown n % UInt64.size :=
    if_neg (Nat.not_le.mpr hmax)
  have hlost : 2 * (b.atAttempt n).interval < b.grown n := by
    rw [hinterval]
    simp only [UInt64.size] at hsize ⊢
    omega
  have hperiod : 2 ≤ b.period := by
    by_contra hsmall
    have hgrown : b.grown n = b.period := grow_of_le_one (by omega) _ _
    simp only [UInt64.size] at hsize
    omega
  have hleast := hlaw.least
  obtain hle | hle := min_le_iff.mp hleast
  · have hle : b.maxPeriod ≤ (b.atAttempt n).interval := by exact_mod_cast hle
    omega
  · have hgrown : (b.grown n : ℚ) ≤ b.period * (3 / 2) ^ (n - 1) := grow_le _ _ _
    have htwice : (b.period : ℚ) * (3 / 2) ^ (n - 1) ≤
        2 * ((b.period - 1) * (3 / 2) ^ (n - 1)) := by
      rw [← mul_assoc]
      gcongr
      have hcast : (2 : ℚ) ≤ b.period := by exact_mod_cast hperiod
      linarith
    have hlost : (2 : ℚ) * (b.atAttempt n).interval < b.grown n := by exact_mod_cast hlost
    linarith

theorem judge_sleeps (hjitter : b.jitter = false) (hn : n < b.maxAttempts) {e : Error}
    (he : e.retryAfter? = none) (s : Session) :
    ((Retryer.judge e (.backoff (b.atAttempt n))).on s).2 =
      s.afterSleep (b.atAttempt n).interval := by
  have hpause : (b.atAttempt n).pause? s.now s.share e = some (b.atAttempt n).interval :=
    pause?_of_plain hjitter he
  have hdecide := decide_of_pause?_some hn hpause
  cases hcut : s.cutsNext with
  | true => rw [Retryer.judge_cut hdecide hcut]
  | false =>
    cases hslept : ((b.atAttempt n).atAttempt (n + 1)).slept (b.atAttempt n).interval with
    | none => rw [Retryer.judge_tooLong hdecide hcut hslept]
    | some c =>
      obtain ⟨_, hjudge⟩ := Retryer.judge_slept hdecide hcut hslept
      rw [hjudge]

/-- After attempt number `n` a backoff without jitter sleeps its interval,
unless the server says when to come back. The interval is never more than the
law allows, and it follows the law just if it is the greatest pause or fits in
a word; so it always does where the greatest pause is less than 584 years. -/
theorem interval_law (hjitter : b.jitter = false) (hn : n < b.maxAttempts) :
    (∀ e s, e.retryAfter? = none →
      ((Retryer.judge e (.backoff (b.atAttempt n))).on s).2 =
        s.afterSleep (b.atAttempt n).interval) ∧
    ((b.atAttempt n).interval : ℚ) ≤ min (b.maxPeriod : ℚ) (b.period * (3 / 2) ^ (n - 1)) ∧
    (b.IntervalLaw n ↔ ¬ b.Overflows n) ∧ (b.maxPeriod ≤ UInt64.size → b.IntervalLaw n) := by
  refine ⟨fun e s he => judge_sleeps hjitter hn he s, b.interval_le_power n,
    ⟨fun hlaw hover => not_intervalLaw_of_overflows hover hlaw, .of_fits⟩, fun hmax => .of_fits ?_⟩
  rintro ⟨hsize, hbelow⟩
  omega

/-- Three nanoseconds, rounded down at each step: 4, 6, 9 and 13. -/
theorem interval_law_rounded :
    let b := Backoff.new 3 20 10
    b.jitter = false ∧ 5 < b.maxAttempts ∧ (b.atAttempt 5).interval = 13 ∧
    (∀ s, ((Retryer.judge .timeout (.backoff (b.atAttempt 5))).on s).2 = s.afterSleep 13) ∧
      b.IntervalLaw 5 := by
  intro b
  have hinterval : (b.atAttempt 5).interval = 13 := by decide
  obtain ⟨hsleeps, -, -, hlaw⟩ := interval_law (b := b) (n := 5) rfl (by decide)
  exact ⟨rfl, by decide, hinterval, fun s => hinterval ▸ hsleeps .timeout s rfl, hlaw (by decide)⟩

/-- With a period of 584 years and a greatest pause of twice
that time, the first pause is less than half a millisecond. -/
theorem interval_law_broken :
    let b := Backoff.new 18446744073710000000 36893488147420000000 3
    (∀ s, ((Retryer.judge .timeout (.backoff b)).on s).2 = s.afterSleep 448384) ∧
    (448384 : ℚ) < min (b.maxPeriod : ℚ) (b.period - 1) ∧ ¬ b.IntervalLaw 1 := by
  intro b
  have hinterval : (b.atAttempt 1).interval = 448384 := by decide
  refine ⟨fun s => hinterval ▸ judge_sleeps (b := b) (n := 1) rfl (by decide) rfl s, ?_,
    not_intervalLaw_of_overflows ⟨?_, ?_⟩⟩
  · norm_num [b, new]
  · decide
  · decide

end Backoff

end DeclarativeHttp
