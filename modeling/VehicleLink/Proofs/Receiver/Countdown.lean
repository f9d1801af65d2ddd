import VehicleLink.Proofs.Receiver.Implementation

/-!
# Proofs/Receiver/Countdown — receivers that find their way back

In the middle of an item a receiver can take only so many more bytes.  A `Countdown` counts them: a
byte that starts no item takes at least one off, and at zero the receiver is between two items.  So
enough such bytes bring every reachable state to rest, and what follows is received as if nothing
had come before (`Resynchronises`).
-/

namespace VehicleLink.Receiver

variable {σ τ α : Type} {receiver : Receiver σ α} {Idle Sound : σ → Prop} {Silent : UInt8 → Prop}
  {Whole : List UInt8 → Event α → Prop} {patience : σ → Nat} {count : Nat}

/-- The states after `count` bytes or more that start no item, whatever came before them. -/
inductive Rested (receiver : Receiver σ α) (Silent : UInt8 → Prop) (count : Nat) : σ → Prop where
  | run {state : σ} (h : receiver.Reachable state) {noise : List UInt8}
    (hnoise : ∀ byte ∈ noise, Silent byte) (hcount : count ≤ noise.length) (place : Nat) :
    Rested receiver Silent count (receiver.run state place noise).1

/-- **Whether a receiver finds its way back.**  After `count` bytes that start no item it is between
two items, whatever came before them, and goes on as a fresh receiver does: a whole item that
follows causes its own event and no other, at its last byte. -/
structure Resynchronises (receiver : Receiver σ α) (Idle : σ → Prop) (Silent : UInt8 → Prop)
    (Whole : List UInt8 → Event α → Prop) (count : Nat) : Prop where
  idle : ∀ {state}, receiver.Rested Silent count state → Idle state
  asFresh : ∀ {state}, receiver.Rested Silent count state → receiver.AsFresh state
  delivers : ∀ {state}, receiver.Rested Silent count state → ∀ {item event}, Whole item event →
    ∀ place, (receiver.run state place item).2 = [(place + item.length - 1, event)]

/-! ## Counting down -/

/-- A bound on the bytes that a state still takes before it is between two items. -/
structure Countdown (receiver : Receiver σ α) (Idle Sound : σ → Prop) (Silent : UInt8 → Prop)
    (patience : σ → Nat) (count : Nat) : Prop where
  sound_fresh : Sound receiver.fresh
  sound_reset : ∀ {state}, Sound state → Sound (receiver.reset state)
  sound_step : ∀ {state}, Sound state → ∀ byte, Sound (receiver.step state byte).1
  patience_le : ∀ state, patience state ≤ count
  /-- A byte that starts no item lowers the bound. -/
  patience_step : ∀ {state}, Sound state → ∀ {byte}, Silent byte →
    patience (receiver.step state byte).1 ≤ patience state - 1
  idle_of_patience : ∀ {state}, Sound state → patience state = 0 → Idle state

namespace Countdown

variable (h : receiver.Countdown Idle Sound Silent patience count)

include h

/-- **Over a run the bound goes down by as many bytes as there are.** -/
theorem patience_run {state : σ} (hstate : Sound state) {noise : List UInt8}
    (hnoise : ∀ byte ∈ noise, Silent byte) (place : Nat) :
    Sound (receiver.run state place noise).1 ∧
      patience (receiver.run state place noise).1 ≤ patience state - noise.length := by
  induction noise generalizing state place with
  | nil => exact ⟨hstate, Nat.le_refl _⟩
  | cons byte noise ih =>
    obtain ⟨hbyte, hnoise⟩ := List.forall_mem_cons.mp hnoise
    have hstep := h.patience_step hstate hbyte
    obtain ⟨hsound, hrun⟩ := ih (h.sound_step hstate byte) hnoise (place + 1)
    refine ⟨hsound, Nat.le_trans hrun ?_⟩
    rw [List.length_cons]
    omega

theorem idle_of_rested {state : σ} (hstate : receiver.Rested Silent count state) : Idle state := by
  cases hstate with
  | @run before hbefore noise hnoise hcount place =>
    have hbefore : Sound before := hbefore.keeps h.sound_step h.sound_fresh h.sound_reset
    obtain ⟨hsound, hrun⟩ := h.patience_run hbefore hnoise place
    have hle := h.patience_le before
    exact h.idle_of_patience hsound (by omega)

/-- **A receiver that counts down, and is as a fresh one between two items, finds its way back.** -/
theorem resynchronises (hfresh : ∀ {state}, Idle state → receiver.AsFresh state)
    (hwhole : ∀ {item event}, Whole item event → ∀ place,
      (receiver.run receiver.fresh place item).2 = [(place + item.length - 1, event)]) :
    receiver.Resynchronises Idle Silent Whole count where
  idle := h.idle_of_rested
  asFresh hstate := hfresh (h.idle_of_rested hstate)
  delivers hstate _ _ hitem place := by
    rw [hfresh (h.idle_of_rested hstate), hwhole hitem]

end Countdown

/-! ## Carried out on other states -/

theorem Reachable.run {state : σ} (h : receiver.Reachable state) (place : Nat)
    (bytes : List UInt8) : receiver.Reachable (receiver.run state place bytes).1 := by
  induction bytes generalizing state place with
  | nil => exact h
  | cons byte bytes ih => exact ih (h.push byte) (place + 1)

namespace Implementation

variable {concrete : Receiver τ α} {view : τ → σ} {Sound : τ → Prop}
  (h : Implementation concrete receiver view Sound)

include h

theorem rested_view {state : τ} (hstate : concrete.Rested Silent count state) :
    Sound state ∧ receiver.Rested Silent count (view state) := by
  obtain ⟨hbefore, hnoise, hcount, place⟩ := hstate
  have hrested := Rested.run (h.reachable_view hbefore) hnoise hcount place
  rw [h.run_view (h.sound_of_reachable hbefore)] at hrested
  exact ⟨h.sound_of_reachable (hbefore.run place _), hrested⟩

/-- **Carried out, a receiver that finds its way back still does.** -/
theorem resynchronises (hback : receiver.Resynchronises Idle Silent Whole count) :
    concrete.Resynchronises (fun state => Idle (view state)) Silent Whole count where
  idle hstate := hback.idle (h.rested_view hstate).2
  asFresh hstate :=
    h.asFresh (h.rested_view hstate).1 (hback.asFresh (h.rested_view hstate).2)
  delivers hstate _ _ hitem place := by
    have hdelivers := hback.delivers (h.rested_view hstate).2 hitem place
    rwa [h.run_view (h.rested_view hstate).1] at hdelivers

end Implementation

end VehicleLink.Receiver
