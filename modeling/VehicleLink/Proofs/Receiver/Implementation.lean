import VehicleLink.Proofs.Receiver.Driving

/-!
# Proofs/Receiver/Implementation — carrying out a receiver on other states

A receiver can be carried out on states of another kind (`Implementation`): each stands for a state of
the receiver, a byte and a reset do the same to both, and both report the same item.  What holds of
the receiver then holds of the one that carries it out: it reports the same on every stream
(`Implementation.run_view`), and is forgetful if the receiver is (`Implementation.forgetful`).
-/

namespace VehicleLink.Receiver

variable {σ τ α : Type}

/-- A receiver on states `τ` carries out one on states `σ`: a sound state stands for the state that
`view` shows, and both do and report the same. -/
structure Implementation (concrete : Receiver τ α) (abstract : Receiver σ α) (view : τ → σ)
    (Sound : τ → Prop) : Prop where
  sound_fresh : Sound concrete.fresh
  view_fresh : view concrete.fresh = abstract.fresh
  sound_reset : ∀ {state}, Sound state → Sound (concrete.reset state)
  view_reset : ∀ {state}, Sound state → view (concrete.reset state) = abstract.reset (view state)
  sound_step : ∀ {state}, Sound state → ∀ byte, Sound (concrete.step state byte).1
  step_view : ∀ {state}, Sound state → ∀ byte,
    abstract.step (view state) byte
      = (view (concrete.step state byte).1, (concrete.step state byte).2)
  item_view : ∀ {state}, Sound state → abstract.item (view state) = concrete.item state

namespace Implementation

variable {concrete : Receiver τ α} {abstract : Receiver σ α} {view : τ → σ} {Sound : τ → Prop}
  (h : Implementation concrete abstract view Sound) {state : τ}

include h

theorem sound_push (hstate : Sound state) (byte : UInt8) : Sound (concrete.push state byte).1 :=
  h.sound_step hstate byte

theorem push_view (hstate : Sound state) (byte : UInt8) :
    abstract.push (view state) byte
      = (view (concrete.push state byte).1, (concrete.push state byte).2) := by
  have hitem := h.item_view (h.sound_step hstate byte)
  rw [push, push, h.step_view hstate byte]
  generalize concrete.step state byte = result at hitem ⊢
  obtain ⟨next, _ | _ | error⟩ := result
  · rfl
  · exact Prod.ext rfl (congrArg some hitem)
  · rfl

/-- **Carried out, a receiver reports the same on every stream.** -/
theorem run_view (hstate : Sound state) (place : Nat) (bytes : List UInt8) :
    abstract.run (view state) place bytes
      = (view (concrete.run state place bytes).1, (concrete.run state place bytes).2) := by
  induction bytes generalizing state place with
  | nil => rfl
  | cons byte bytes ih => simp only [run, h.push_view hstate, ih (h.sound_push hstate byte)]

theorem pushBytes_view (hstate : Sound state) (bytes : List UInt8) :
    abstract.pushBytes (view state) bytes
      = (view (concrete.pushBytes state bytes).1, (concrete.pushBytes state bytes).2) := by
  induction bytes generalizing state with
  | nil => rfl
  | cons byte bytes ih =>
    have hnext := h.sound_push hstate byte
    rw [pushBytes, pushBytes, h.push_view hstate]
    generalize concrete.push state byte = result at hnext ⊢
    obtain ⟨next, _ | event⟩ := result
    · exact ih hnext
    · rfl

theorem sound_of_reachable (hstate : concrete.Reachable state) : Sound state :=
  hstate.keeps h.sound_push h.sound_fresh h.sound_reset

theorem reachable_view (hstate : concrete.Reachable state) : abstract.Reachable (view state) := by
  induction hstate with
  | fresh =>
    rw [h.view_fresh]
    exact .fresh
  | push hstate byte ih =>
    have hnext := ih.push byte
    rwa [h.push_view (h.sound_of_reachable hstate)] at hnext
  | pushBytes hstate bytes ih =>
    have hnext := ih.pushBytes bytes
    rwa [h.pushBytes_view (h.sound_of_reachable hstate)] at hnext
  | reset hstate ih =>
    rw [h.view_reset (h.sound_of_reachable hstate)]
    exact ih.reset

theorem settled_view (hstate : concrete.Settled state) : abstract.Settled (view state) := by
  cases hstate with
  | push hstate hevent =>
    have hpush := h.push_view (h.sound_of_reachable hstate)
    have hnext := Settled.push (h.reachable_view hstate) (by rwa [hpush])
    rwa [hpush] at hnext
  | pushBytes hstate hevent =>
    have hpush := h.pushBytes_view (h.sound_of_reachable hstate)
    have hnext := Settled.pushBytes (h.reachable_view hstate) (by rwa [hpush])
    rwa [hpush] at hnext
  | reset hstate =>
    rw [h.view_reset (h.sound_of_reachable hstate)]
    exact .reset (h.reachable_view hstate)

theorem asFresh (hstate : Sound state) (hfresh : abstract.AsFresh (view state)) :
    concrete.AsFresh state := by
  intro place stream
  have hsame := hfresh place stream
  rwa [h.run_view hstate, ← h.view_fresh, h.run_view h.sound_fresh] at hsame

/-- **Carried out, a forgetful receiver is forgetful.** -/
theorem forgetful (hforget : abstract.Forgetful) : concrete.Forgetful := fun hstate =>
  h.asFresh (h.sound_of_reachable hstate.reachable) (hforget (h.settled_view hstate))

end Implementation

end VehicleLink.Receiver
