import VehicleLink.Receiver

/-!
# Proofs/Receiver/Driving — the states that a caller can bring about

A caller pushes bytes, one or several at a time, and resets the receiver.  `Reachable` are the states
that this leads to, and `Settled` those of them right after an event or a reset.

What a byte and a reset keep, every reachable state has (`Reachable.keeps`); what every event and
every reset brings about, every settled state has (`Settled.has`).  A receiver is `Forgetful` if it
goes on from there like one that has never received anything.
-/

namespace VehicleLink.Receiver

variable {σ α : Type} (receiver : Receiver σ α)

/-- The states that pushes, bulk pushes and resets lead to. -/
inductive Reachable : σ → Prop where
  | fresh : Reachable receiver.fresh
  | push {state : σ} (h : Reachable state) (byte : UInt8) : Reachable (receiver.push state byte).1
  | pushBytes {state : σ} (h : Reachable state) (bytes : List UInt8) :
    Reachable (receiver.pushBytes state bytes).1
  | reset {state : σ} (h : Reachable state) : Reachable (receiver.reset state)

/-- The reachable states right after an event or a reset. -/
inductive Settled : σ → Prop where
  | push {state : σ} (h : receiver.Reachable state) {byte : UInt8}
    (hevent : (receiver.push state byte).2.isSome) : Settled (receiver.push state byte).1
  | pushBytes {state : σ} (h : receiver.Reachable state) {bytes : List UInt8}
    (hevent : (receiver.pushBytes state bytes).2.1.isSome) :
    Settled (receiver.pushBytes state bytes).1
  | reset {state : σ} (h : receiver.Reachable state) : Settled (receiver.reset state)

variable {receiver}

/-! ## What every such state has -/

section Keeps

variable {P : σ → Prop}
  (hpush : ∀ {state}, P state → ∀ byte, P (receiver.push state byte).1)

include hpush

theorem pushBytes_keeps {state : σ} (h : P state) (bytes : List UInt8) :
    P (receiver.pushBytes state bytes).1 := by
  induction bytes generalizing state with
  | nil => exact h
  | cons byte bytes ih =>
    have hnext := hpush h byte
    rw [pushBytes]
    split
    · next hcall =>
      rw [hcall] at hnext
      exact hnext
    · next hcall =>
      rw [hcall] at hnext
      exact ih hnext

/-- **What a push and a reset keep, every reachable state has.** -/
theorem Reachable.keeps (hfresh : P receiver.fresh)
    (hreset : ∀ {state}, P state → P (receiver.reset state)) {state : σ}
    (h : receiver.Reachable state) : P state := by
  induction h with
  | fresh => exact hfresh
  | push _ byte ih => exact hpush ih byte
  | pushBytes _ bytes ih => exact pushBytes_keeps hpush ih bytes
  | reset _ ih => exact hreset ih

end Keeps

theorem step_ne_pending {state : σ} {byte : UInt8} (h : (receiver.push state byte).2.isSome) :
    (receiver.step state byte).2 ≠ .pending := by
  intro hpending
  change (receiver.event? (receiver.step state byte).1 (receiver.step state byte).2).isSome at h
  rw [hpending] at h
  cases h

/-- A bulk push that reports an event stops with the push of its last byte. -/
theorem exists_push_of_pushBytes {state : σ} {bytes : List UInt8}
    (h : (receiver.pushBytes state bytes).2.1.isSome) :
    ∃ before byte, (receiver.push before byte).2.isSome ∧
      (receiver.pushBytes state bytes).1 = (receiver.push before byte).1 := by
  induction bytes generalizing state with
  | nil => cases h
  | cons byte bytes ih =>
    rw [pushBytes] at h ⊢
    split at h
    · next next event hcall =>
      refine ⟨state, byte, ?_, ?_⟩ <;> rw [hcall]
      rfl
    · exact ih h

theorem Settled.reachable {state : σ} (h : receiver.Settled state) : receiver.Reachable state := by
  cases h with
  | push h _ => exact h.push _
  | pushBytes h _ => exact h.pushBytes _
  | reset h => exact h.reset

/-- Whether a byte that has caused an event has led to a state with a property. -/
def Leaves (P : σ → Prop) (result : σ × Outcome) : Prop := result.2 ≠ .pending → P result.1

theorem Leaves.pending {P : σ → Prop} (state : σ) : Leaves P (state, .pending) :=
  fun h => absurd rfl h

/-- **What every state has after an event and after a reset, every settled state has.** -/
theorem Settled.has {P : σ → Prop}
    (hevent : ∀ state byte, Leaves P (receiver.step state byte))
    (hreset : ∀ state, P (receiver.reset state)) {state : σ} (h : receiver.Settled state) :
    P state := by
  have hpush : ∀ state byte, (receiver.push state byte).2.isSome →
      P (receiver.push state byte).1 := fun state byte hsome =>
    hevent state byte (step_ne_pending hsome)
  cases h with
  | push _ event => exact hpush _ _ event
  | pushBytes _ event =>
    obtain ⟨before, byte, hsome, heq⟩ := exists_push_of_pushBytes event
    rw [heq]
    exact hpush before byte hsome
  | reset _ => exact hreset _

/-! ## Forgetting -/

/-- Whether all events to come, with their places, are those of a fresh receiver. -/
def AsFresh (receiver : Receiver σ α) (state : σ) : Prop :=
  ∀ place stream, (receiver.run state place stream).2
    = (receiver.run receiver.fresh place stream).2

/-- Whether nothing that was received before an event or a reset shows up in an event after it. -/
def Forgetful (receiver : Receiver σ α) : Prop :=
  ∀ {state}, receiver.Settled state → receiver.AsFresh state

end VehicleLink.Receiver
