import Mathlib
import Balancer.Proofs.Pool.Issuance

/-!
# Refused calls to make a port

A refused call leaves a dynamic pool as it is, with one exception. When the internal block is used
up and the external one is not, the call draws an external address before it finds no internal one,
and the address is lost. This costs no port, since the pool cannot make one any more. But the pool
is not as before: each further call loses another address, and once all are gone the refusal names
the other block.
-/

namespace Balancer

namespace DynamicPool

/-- Whether a call to make a port draws an external address for which there is no internal one. -/
def Wastes (pool : DynamicPool) : Prop :=
  pool.unavailable = false ∧ pool.limitReached = none ∧
    pool.externals.next < pool.externals.block.size ∧
      pool.internals.block.size ≤ pool.internals.next

instance (pool : DynamicPool) : Decidable pool.Wastes :=
  inferInstanceAs (Decidable (_ ∧ _))

/-- The pool with further external addresses drawn, as far as there are any. -/
def withDrawn (pool : DynamicPool) (count : Nat) : DynamicPool :=
  { pool with externals :=
    { pool.externals with
      next := min (pool.externals.next + count) pool.externals.block.size } }

/-- The refusal of a pool that has drawn so many external addresses for nothing. -/
def refusal (pool : DynamicPool) (count : Nat) : PoolError :=
  if pool.externals.next + count < pool.externals.block.size then
    .blockExhausted pool.internals.block
  else .blockExhausted pool.externals.block

variable {pool : DynamicPool} {error : PoolError}

/-- A refused call wastes an address, or it changes nothing. -/
theorem refused_cases (h : pool.provision.1 = .error error) :
    pool.Wastes ∧ error = .blockExhausted pool.internals.block ∧ pool.provision.2 ≠ pool ∨
      ¬pool.Wastes ∧ pool.provision.2 = pool := by
  have hprovisioned := pool.provisioned
  generalize pool.provision = result at h hprovisioned ⊢
  cases hprovisioned with
  | offline hoffline =>
    refine Or.inr ⟨fun hwastes => ?_, rfl⟩
    exact absurd (hoffline.symm.trans hwastes.1) (by decide)
  | full _ hcapacity hfull =>
    refine Or.inr ⟨fun hwastes => ?_, rfl⟩
    exact absurd (size_lt_of_limitReached hwastes.2.1 hcapacity) (by omega)
  | noExternal _ _ hexternal =>
    refine Or.inr ⟨fun hwastes => ?_, rfl⟩
    exact absurd hwastes.2.2.1 (by omega)
  | noInternal honline hroom hexternal hinternal =>
    refine Or.inl
      ⟨⟨honline, hroom, hexternal, hinternal⟩, (Except.error.inj h).symm, fun hsame => ?_⟩
    have hnext := congrArg (fun rest : DynamicPool => rest.externals.next) hsame
    simp at hnext
  | made => cases h

/-- One more call to a pool that has drawn addresses for nothing is refused, and draws one more if
there is one. -/
theorem Wastes.provision_withDrawn (h : pool.Wastes) (count : Nat) :
    (pool.withDrawn count).provision =
      (.error (pool.refusal count), pool.withDrawn (count + 1)) := by
  obtain ⟨honline, hroom, hexternal, hinternal⟩ := h
  have hprovisioned := (pool.withDrawn count).provisioned
  generalize (pool.withDrawn count).provision = result at hprovisioned ⊢
  cases hprovisioned with
  | offline hoffline => exact absurd (hoffline.symm.trans honline) (by decide)
  | full _ hcapacity hfull =>
    exact absurd (size_lt_of_limitReached hroom hcapacity) (Nat.not_lt_of_le hfull)
  | noExternal _ _ hused =>
    have hdrawn : pool.externals.block.size ≤ pool.externals.next + count := by
      simp only [withDrawn] at hused
      omega
    rw [refusal, if_neg (Nat.not_lt_of_le hdrawn)]
    simp only [withDrawn, ← Nat.add_assoc, Nat.min_eq_right hdrawn,
      Nat.min_eq_right (Nat.le_succ_of_le hdrawn)]
  | noInternal _ _ hleft _ =>
    have hdrawn : pool.externals.next + count < pool.externals.block.size := by
      simp only [withDrawn] at hleft
      omega
    rw [refusal, if_pos hdrawn]
    simp only [withDrawn, ← Nat.add_assoc, Nat.min_eq_left hdrawn.le, Nat.min_eq_left hdrawn]
  | made _ _ _ hleft => exact absurd hleft (Nat.not_lt_of_le hinternal)

/-- Calls that are made one after the other draw one external address each, as far as there are
any. -/
theorem Wastes.through_replicate (h : pool.Wastes) (count : Nat) :
    pool.through (List.replicate count .provision) = pool.withDrawn count := by
  induction count with
  | zero => simp [through, withDrawn, h.2.2.1.le]
  | succ count ih =>
    rw [List.replicate_succ, through, ih]
    exact congrArg Prod.snd (h.provision_withDrawn count)

/-- A pool whose internal block is used up draws no further internal address. -/
theorem internals_through (h : pool.internals.block.size ≤ pool.internals.next)
    (history : List PoolChange) : (pool.through history).internals = pool.internals := by
  induction history with
  | nil => rfl
  | cons change earlier ih =>
    rw [← ih] at h ⊢
    rw [through]
    generalize pool.through earlier = pool at h ⊢
    cases change with
    | provision =>
      have hprovisioned := pool.provisioned
      simp only [DynamicPool.change]
      generalize pool.provision = result at hprovisioned ⊢
      cases hprovisioned with
      | made _ _ _ hleft => exact absurd hleft (Nat.not_lt_of_le h)
      | _ => rfl
    | clean used =>
      rw [change_clean]
      split <;> rfl
    | remove id => rfl
    | setUnavailable unavailable => rfl

/-- A pool whose internal block is used up never makes a port again. -/
theorem exists_refusal (h : pool.internals.block.size ≤ pool.internals.next)
    (history : List PoolChange) : ∃ cause, (pool.through history).provision.1 = .error cause := by
  rw [← internals_through h history] at h
  generalize pool.through history = pool at h ⊢
  have hprovisioned := pool.provisioned
  generalize pool.provision = result at hprovisioned ⊢
  cases hprovisioned with
  | made _ _ _ hleft => exact absurd hleft (Nat.not_lt_of_le h)
  | _ => exact ⟨_, rfl⟩

/-- A refused call leaves a dynamic pool as it is exactly if it does not waste an address. If it
does, the refusal is that the internal block is used up, and the pool makes no port again, whatever
happens. All that further calls do is to draw the external addresses that are left, one each, and
the refusal names the external block once there are none. -/
theorem refused_invisible_iff (h : pool.provision.1 = .error error) :
    (pool.provision.2 = pool ↔ ¬pool.Wastes) ∧
      (pool.Wastes →
        error = .blockExhausted pool.internals.block ∧
        (∀ count, pool.through (List.replicate count .provision) = pool.withDrawn count ∧
          (pool.withDrawn count).provision.1 = .error (pool.refusal count)) ∧
        ∀ history, ∃ cause, (pool.through history).provision.1 = .error cause) := by
  rcases refused_cases h with ⟨hwastes, herror, hchanged⟩ | ⟨hkeeps, hsame⟩
  · refine ⟨iff_of_false hchanged (not_not_intro hwastes), fun _ => ⟨herror, fun count => ?_, ?_⟩⟩
    · refine ⟨hwastes.through_replicate count, ?_⟩
      rw [hwastes.provision_withDrawn count]
    · exact exists_refusal hwastes.2.2.2
  · exact ⟨iff_of_true hsame hkeeps, fun hwastes => absurd hwastes hkeeps⟩

/-- A pool with three external addresses and one internal address, which a port was made with. -/
def cramped : DynamicPool :=
  let externals : Block :=
    { base := Ipv4.ofNat 0xCB007100, length := 30, length_le := by decide, aligned := by decide }
  let internals : Block :=
    { base := Ipv4.ofNat 0x0A000000, length := 31, length_le := by decide, aligned := by decide }
  (empty externals internals none).through [.provision]

/-- The next call is refused since the internal block is used up, and the pool has changed. The call
after the two external addresses that are left is refused since the external block is used up. -/
theorem refused_invisible_iff_cramped :
    cramped.provision.1 = .error (.blockExhausted cramped.internals.block) ∧ cramped.Wastes ∧
      cramped.provision.2 ≠ cramped ∧
      (cramped.through (List.replicate 2 .provision)).provision.1 =
        .error (.blockExhausted cramped.externals.block) := by
  have hrefused : cramped.provision.1 = .error (.blockExhausted cramped.internals.block) := by
    decide +kernel
  have hwastes : cramped.Wastes := by decide +kernel
  obtain ⟨hinvisible, hfurther⟩ := refused_invisible_iff hrefused
  obtain ⟨-, hdrawn, -⟩ := hfurther hwastes
  refine ⟨hrefused, hwastes, fun hsame => hinvisible.mp hsame hwastes, ?_⟩
  rw [(hdrawn 2).1, (hdrawn 2).2]
  decide +kernel

/-- The pools of histories are reachable. -/
theorem reachable_through (external internal : Block) (capacity : Option Nat)
    (history : List PoolChange) :
    (Pool.dynamic ((empty external internal capacity).through history)).Reachable := by
  induction history with
  | nil => exact .empty external internal capacity
  | cons change earlier ih =>
    rw [through, ← Pool.change_dynamic]
    exact .change change ih

/-- So not every refused call leaves a pool with a history as it is. -/
theorem exists_wasted_address :
    ¬∀ (pool : DynamicPool) (error : PoolError), (Pool.dynamic pool).Reachable →
      pool.provision.1 = .error error → pool.provision.2 = pool := by
  intro hall
  have hsame := hall cramped (.blockExhausted cramped.internals.block)
    (reachable_through _ _ _ [.provision]) (by decide +kernel)
  have hnext : cramped.provision.2.externals.next ≠ cramped.externals.next := by decide +kernel
  exact hnext (congrArg (fun pool => pool.externals.next) hsame)

end DynamicPool

end Balancer
