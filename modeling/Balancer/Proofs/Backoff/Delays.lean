import Mathlib
import Balancer.Config
import Balancer.Proofs.Containers

/-!
# The delays of an accepted configuration

A configuration gives the base of the backoff in milliseconds and the maximum in seconds, each as a
64-bit number. The exact delay of an attempt is the base, doubled with each attempt before, up to
the maximum. It never shrinks and lies between the base and the maximum.

The delay is counted in nanoseconds, and only the low 64 bits of the count are kept. They last for
584 years, which is less than the greatest maximum that is accepted. So the delays are as they
should be exactly if the maximum fits into 64 bits; beyond that they wrap, and a job may be tried
again without any delay.
-/

namespace Balancer

namespace Backoff

variable {policy : Backoff}

/-- The delay of an attempt before it is cut to 64 bits. -/
def exactDelay (policy : Backoff) (attempt : Nat) : Nat :=
  min (policy.base * 2 ^ min attempt 64) policy.max

/-- What the delays should be: none is less than the base, none exceeds the maximum or is less than
an earlier one, and each is twice the one before until the maximum is reached. -/
structure Sane (policy : Backoff) : Prop where
  ordered : ∀ i j, i ≤ j →
    policy.base ≤ policy.delay i ∧ policy.delay i ≤ policy.delay j ∧ policy.delay j ≤ policy.max
  doubled : ∀ i ≤ 64, policy.delay i = min (policy.base * 2 ^ i) policy.max
  positive : ∀ i, 0 < policy.delay i

/-- What a configuration accepts: a positive number of milliseconds as the base, and a number of
seconds that is not below it as the maximum, both with 64 bits. -/
structure Admissible (policy : Backoff) : Prop where
  base_eq : ∃ millis < word64Count, policy.base = millis * nanosPerMilli
  max_eq : ∃ seconds < word64Count, policy.max = seconds * nanosPerSecond
  positive : 0 < policy.base
  base_le_max : policy.base ≤ policy.max

/-- The exact delay never exceeds the maximum. -/
theorem exactDelay_le_max (policy : Backoff) (attempt : Nat) :
    policy.exactDelay attempt ≤ policy.max :=
  min_le_right _ _

/-- The exact delay is never less than the base. -/
theorem base_le_exactDelay (h : policy.base ≤ policy.max) (attempt : Nat) :
    policy.base ≤ policy.exactDelay attempt := by
  apply le_min
  · exact Nat.le_mul_of_pos_right policy.base (Nat.two_pow_pos _)
  · exact h

/-- The exact delay of a later attempt is not less. -/
theorem exactDelay_mono (policy : Backoff) : Monotone policy.exactDelay := by
  intro i j hij
  apply min_le_min_right
  apply Nat.mul_le_mul_left
  apply Nat.pow_le_pow_right (by decide)
  omega

/-- The delay that is computed has the low 64 bits of the exact one. The product saturates only
where the maximum is less anyway. -/
theorem delay_eq_mod (h : policy.max < word128Count) (attempt : Nat) :
    policy.delay attempt = policy.exactDelay attempt % word64Count := by
  unfold delay exactDelay twoPower
  rw [min_assoc, min_eq_right (Nat.le_sub_one_of_lt h)]
  rfl

/-- A maximum that is accepted is far from the point where products saturate. -/
theorem Admissible.max_lt (h : policy.Admissible) : policy.max < word128Count := by
  obtain ⟨seconds, hseconds, hmax⟩ := h.max_eq
  calc policy.max
      = seconds * nanosPerSecond := hmax
    _ < word64Count * nanosPerSecond := Nat.mul_lt_mul_of_pos_right hseconds (by decide)
    _ < word128Count := by decide

/-- A delay is the exact one as long as that one fits into 64 bits. -/
theorem Admissible.delay_eq_iff (h : policy.Admissible) (attempt : Nat) :
    policy.delay attempt = policy.exactDelay attempt ↔ policy.exactDelay attempt < word64Count := by
  rw [delay_eq_mod h.max_lt]
  exact Nat.mod_eq_iff_lt (by decide)

/-- If the maximum has more than 64 bits, then the exact delay of the last attempt that doubles has
more, too. -/
theorem Admissible.word64Count_le_exactDelay (h : policy.Admissible)
    (hmax : word64Count ≤ policy.max) : word64Count ≤ policy.exactDelay 64 := by
  apply le_min
  · change 2 ^ 64 ≤ policy.base * 2 ^ 64
    exact Nat.le_mul_of_pos_left _ h.positive
  · exact hmax

/-- The delays are as they should be exactly if the maximum fits into 64 bits. -/
theorem Admissible.sane_iff (h : policy.Admissible) : policy.Sane ↔ policy.max < word64Count := by
  constructor
  · intro hsane
    by_contra hmax
    have hdelay : policy.delay 64 = policy.exactDelay 64 := hsane.doubled 64 le_rfl
    rw [h.delay_eq_iff] at hdelay
    exact absurd (h.word64Count_le_exactDelay (not_lt.mp hmax)) (not_le.mpr hdelay)
  · intro hmax
    have hdelay : ∀ attempt, policy.delay attempt = policy.exactDelay attempt := fun attempt =>
      (h.delay_eq_iff attempt).mpr ((policy.exactDelay_le_max attempt).trans_lt hmax)
    constructor
    · intro i j hij
      rw [hdelay i, hdelay j]
      exact ⟨base_le_exactDelay h.base_le_max i, policy.exactDelay_mono hij,
        policy.exactDelay_le_max j⟩
    · intro i hi
      rw [hdelay i, exactDelay, min_eq_left hi]
    · intro i
      rw [hdelay i]
      exact h.positive.trans_le (base_le_exactDelay h.base_le_max i)

/-- Whatever is accepted, a delay never exceeds the maximum. -/
theorem Admissible.delay_le_max (h : policy.Admissible) (attempt : Nat) :
    policy.delay attempt ≤ policy.max := by
  rw [delay_eq_mod h.max_lt]
  exact (Nat.mod_le _ _).trans (policy.exactDelay_le_max attempt)

/-- There is no delay exactly if the low 64 bits of the exact delay are zero. -/
theorem Admissible.delay_eq_zero_iff (h : policy.Admissible) (attempt : Nat) :
    policy.delay attempt = 0 ↔ word64Count ∣ policy.exactDelay attempt := by
  rw [delay_eq_mod h.max_lt]
  exact Nat.dvd_iff_mod_eq_zero.symm

end Backoff

/-- Without jitter the only delay that may be drawn is the one that is computed. -/
theorem JitteredBackoff.allows_iff {backoff : JitteredBackoff} (hjitter : ¬backoff.jitter > 0.0)
    {attempt delay : Nat} (hmax : backoff.policy.delay attempt ≤ backoff.policy.max) :
    backoff.allows attempt delay = true ↔ delay = backoff.policy.delay attempt := by
  have hspread : backoff.spread attempt = 0 := if_neg hjitter
  simp only [allows, least, greatest, hspread, Bool.and_eq_true, decide_eq_true_eq]
  omega

namespace Config

variable {lookup : Lookup}

/-- A number that is read has 64 bits. -/
theorem readNumber_lt {var : Variable} {number : Option Nat}
    (h : readNumber lookup var = .ok number) : ∀ value ∈ number, value < word64Count := by
  intro value hvalue
  unfold readNumber at h
  split at h
  · cases h
    cases hvalue
  · split at h
    · next read hread =>
      cases h
      cases hvalue
      exact Text.readNumeral_lt (by decide) hread
    · cases h

/-- The delays that are read are admissible, and so are those that stand where none are given. -/
theorem admissible_of_readBackoff {policy : Backoff} (h : readBackoff lookup = .ok policy) :
    policy.Admissible := by
  obtain ⟨millis, hmillis, h⟩ := bind_eq_ok h
  obtain ⟨seconds, hseconds, h⟩ := bind_eq_ok h
  dsimp only at h
  split at h
  · cases h
  next hpositive =>
  split at h
  · cases h
  next hordered =>
  cases h
  have hmillis := readNumber_lt hmillis
  have hseconds := readNumber_lt hseconds
  refine ⟨⟨millis.getD 5, ?_, ?_⟩, ⟨seconds.getD 1000, ?_, ?_⟩, Nat.pos_of_ne_zero hpositive,
    not_lt.mp hordered⟩
  · cases millis with
    | none => decide
    | some value => exact hmillis value rfl
  · cases millis <;> rfl
  · cases seconds with
    | none => decide
    | some value => exact hseconds value rfl
  · cases seconds <;> rfl

/-- The delays of a configuration are those that were read. -/
theorem readBackoff_of_load {config : Config} (h : load lookup = .ok config) :
    readBackoff lookup = .ok config.backoff.policy := by
  obtain ⟨cleanupSeconds, -, h⟩ := bind_eq_ok h
  obtain ⟨policy, hpolicy, h⟩ := bind_eq_ok h
  obtain ⟨jitter, -, h⟩ := bind_eq_ok h
  obtain ⟨pool, -, h⟩ := bind_eq_ok h
  obtain ⟨agents, -, h⟩ := bind_eq_ok h
  obtain ⟨timeout, -, h⟩ := bind_eq_ok h
  cases h
  exact hpolicy

/-- The delays of an accepted configuration without jitter are the exact ones up to their low 64
bits, and none exceeds the maximum. There is no delay exactly where these bits are zero. The delays
are as they should be, at all attempts, exactly if the maximum fits into 64 bits. -/
theorem accepted_delays {config : Config} (hload : load lookup = .ok config)
    (hjitter : ¬config.backoff.jitter > 0.0) :
    let policy := config.backoff.policy
    policy.Admissible ∧
    (∀ attempt delay,
      config.backoff.allows attempt delay = true ↔ delay = policy.delay attempt) ∧
    (∀ attempt, policy.delay attempt = policy.exactDelay attempt % word64Count ∧
      policy.delay attempt ≤ policy.max ∧
      (policy.delay attempt = 0 ↔ word64Count ∣ policy.exactDelay attempt)) ∧
    (policy.Sane ↔ policy.max < word64Count) := by
  intro policy
  have hpolicy : policy.Admissible := admissible_of_readBackoff (readBackoff_of_load hload)
  refine ⟨hpolicy, fun attempt delay => ?_, fun attempt => ?_, hpolicy.sane_iff⟩
  · exact JitteredBackoff.allows_iff hjitter (hpolicy.delay_le_max attempt)
  · exact ⟨Backoff.delay_eq_mod hpolicy.max_lt attempt, hpolicy.delay_le_max attempt,
      hpolicy.delay_eq_zero_iff attempt⟩

/-- A fixed pool of one address, and a maximum of about a thousand million years. -/
def stretched : Lookup := fun name =>
  if name = Variable.name .staticAddresses then some "198.51.100.1"
  else if name = Variable.name .requeueMax then some "36028797018963968"
  else none

/-- This configuration is accepted. -/
theorem exists_load_stretched :
    ∃ config, load stretched = .ok config ∧ config.backoff.jitter = 0.0 ∧
      config.backoff.policy =
        { base := 5 * nanosPerMilli, max := 36028797018963968 * nanosPerSecond } :=
  ⟨_, rfl, by decide, rfl⟩

/-- From the sixty-fifth attempt on a job is tried again without any delay. -/
theorem accepted_delays_stretched :
    ∃ config, load stretched = .ok config ∧ ¬config.backoff.jitter > 0.0 ∧
      ¬config.backoff.policy.Sane ∧ ∀ attempt ≥ 64, config.backoff.policy.delay attempt = 0 := by
  obtain ⟨config, hload, hzero, hpolicy⟩ := exists_load_stretched
  have hjitter : ¬config.backoff.jitter > 0.0 := by rw [hzero]; decide
  obtain ⟨-, -, hdelays, hsane⟩ := accepted_delays hload hjitter
  rw [hpolicy] at hdelays hsane
  refine ⟨config, hload, hjitter, ?_, fun attempt hattempt => ?_⟩
  · rw [hpolicy, hsane]
    decide
  · rw [hpolicy, (hdelays attempt).2.2, Backoff.exactDelay, min_eq_right hattempt]
    decide

/-- So not every configuration that is accepted has delays as they should be. -/
theorem exists_wrapped_delay :
    ¬∀ (lookup : Lookup) (config : Config), load lookup = .ok config →
      config.backoff.jitter = 0.0 → config.backoff.policy.Sane := by
  intro hall
  obtain ⟨config, hload, hzero, hpolicy⟩ := exists_load_stretched
  have hsane := hall stretched config hload hzero
  rw [hpolicy] at hsane
  exact absurd (hsane.positive 64) (by decide)

end Config

end Balancer
